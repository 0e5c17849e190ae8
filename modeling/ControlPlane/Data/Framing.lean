import Mathlib.Data.List.Infix

/-
  Length-prefixed framing of a stream.

  A frame is the length of its payload, in a prefix of fixed
  width, followed by the payload. A receiver keeps what is
  left of a frame that has not arrived in full. What it
  takes out of a stream does not depend on the chunks in
  which the stream arrives.

  Main declarations:
    * `LengthCodec`, `frame` and `stream`
    * `split` and `feedAll`
    * `split_append` and `feedAll_eq_split`
    * `split_stream` and `split_of_prefix`
-/

------------------------------------------------------------
-- Frames
------------------------------------------------------------

namespace ControlPlane

/- How a length below a limit is written and read. -/
structure LengthCodec (β : Type) where
  width : Nat
  width_pos : 0 < width
  limit : Nat
  encode : Nat → List β
  decode : List β → Nat
  length_encode :
    ∀ length, length < limit →
      (encode length).length = width
  decode_encode :
    ∀ length, length < limit →
      decode (encode length) = length

namespace LengthCodec

variable {β : Type} (c : LengthCodec β)

/- A payload with its length before it. -/
def frame (payload : List β) : List β :=
  c.encode payload.length ++ payload

/- The frames of payloads one after another. -/
def stream (payloads : List (List β)) : List β :=
  payloads.flatMap c.frame

/- Every length can be written. -/
def Fits (payloads : List (List β)) : Prop :=
  ∀ payload ∈ payloads, payload.length < c.limit

/-
  Take the complete frames off the front of a buffer: their
  payloads and what is left.
-/
def split (buffer : List β) : List (List β) × List β :=
  if buffer.length < c.width then
    ([], buffer)
  else
    let length := c.decode (buffer.take c.width)
    if buffer.length < c.width + length then
      ([], buffer)
    else
      let later := split (buffer.drop (c.width + length))
      ((buffer.drop c.width).take length :: later.1, later.2)
termination_by buffer.length
decreasing_by
  have hWidth := c.width_pos
  rw [List.length_drop]
  omega

/- Receive a chunk behind what is left of the last ones. -/
def feed
    (buffer chunk : List β) : List (List β) × List β :=
  c.split (buffer ++ chunk)

/- Receive chunks one after another. -/
def feedAll
    (buffer : List β) :
    List (List β) → List (List β) × List β
| [] => ([], buffer)
| chunk :: chunks =>
    let now := c.feed buffer chunk
    let later := feedAll now.2 chunks
    (now.1 ++ later.1, later.2)

@[simp] theorem stream_nil : c.stream [] = [] := rfl

@[simp] theorem stream_cons
    (payload : List β)
    (payloads : List (List β)) :
    c.stream (payload :: payloads) =
      c.frame payload ++ c.stream payloads :=
  List.flatMap_cons

theorem stream_append
    (first second : List (List β)) :
    c.stream (first ++ second) =
      c.stream first ++ c.stream second :=
  List.flatMap_append

theorem length_frame
    {payload : List β}
    (hFits : payload.length < c.limit) :
    (c.frame payload).length =
      c.width + payload.length := by
  unfold frame
  rw [List.length_append, c.length_encode _ hFits]

------------------------------------------------------------
-- Splitting
------------------------------------------------------------

/- The front of the buffer is no complete frame. -/
def Incomplete (buffer : List β) : Prop :=
  buffer.length < c.width ∨
    buffer.length <
      c.width + c.decode (buffer.take c.width)

theorem split_of_incomplete
    {buffer : List β}
    (hIncomplete : c.Incomplete buffer) :
    c.split buffer = ([], buffer) := by
  unfold split
  rcases hIncomplete with hShort | hShort
  · rw [if_pos hShort]
  · by_cases hPrefix : buffer.length < c.width
    · rw [if_pos hPrefix]
    · rw [if_neg hPrefix]
      dsimp only
      rw [if_pos hShort]

/- A buffer without a complete frame is left as it is. -/
theorem split_snd_incomplete
    (buffer : List β) :
    c.Incomplete (c.split buffer).2 := by
  induction buffer using split.induct c with
  | case1 buffer hShort =>
      rw [c.split_of_incomplete (Or.inl hShort)]
      exact Or.inl hShort
  | case2 buffer hPrefix length hShort =>
      rw [c.split_of_incomplete (Or.inr hShort)]
      exact Or.inr hShort
  | case3 buffer hPrefix length hLong ih =>
      unfold split
      rw [if_neg hPrefix]
      dsimp only
      rw [if_neg hLong]
      exact ih

/- A complete frame at the front is taken off. -/
theorem split_frame_append
    {payload : List β}
    (hFits : payload.length < c.limit)
    (rest : List β) :
    c.split (c.frame payload ++ rest) =
      (payload :: (c.split rest).1, (c.split rest).2) := by
  have hWidth := c.length_encode _ hFits
  have hBuffer :
      c.frame payload ++ rest =
        c.encode payload.length ++ (payload ++ rest) :=
    List.append_assoc _ _ _
  have hTake :
      (c.frame payload ++ rest).take c.width =
        c.encode payload.length := by
    rw [hBuffer, List.take_left' hWidth]
  have hDrop :
      (c.frame payload ++ rest).drop c.width =
        payload ++ rest := by
    rw [hBuffer, List.drop_left' hWidth]
  rw [split, if_neg, hTake, c.decode_encode _ hFits]
  · dsimp only
    rw [if_neg, ← List.drop_drop, hDrop, List.take_left,
      List.drop_left]
    rw [List.length_append, c.length_frame hFits]
    omega
  · rw [List.length_append, c.length_frame hFits]
    omega

/- The frames of a stream are taken off one by one. -/
theorem split_stream_append
    {payloads : List (List β)}
    (hFits : c.Fits payloads)
    (rest : List β) :
    c.split (c.stream payloads ++ rest) =
      (payloads ++ (c.split rest).1, (c.split rest).2) := by
  induction payloads with
  | nil => rfl
  | cons payload payloads ih =>
      have hHead := hFits payload List.mem_cons_self
      have hTail : c.Fits payloads :=
        fun other hOther =>
          hFits other (List.mem_cons_of_mem _ hOther)
      rw [stream_cons, List.append_assoc,
        c.split_frame_append hHead, ih hTail]
      rfl

/- What is split off stays split off as more arrives. -/
theorem split_append
    (first second : List β) :
    c.split (first ++ second) =
      ((c.split first).1 ++
          (c.split ((c.split first).2 ++ second)).1,
        (c.split ((c.split first).2 ++ second)).2) := by
  induction first using split.induct c with
  | case1 buffer hShort =>
      rw [c.split_of_incomplete (Or.inl hShort)]
      rfl
  | case2 buffer hPrefix length hShort =>
      rw [c.split_of_incomplete (Or.inr hShort)]
      rfl
  | case3 buffer hPrefix length hLong ih =>
      have hWidth : c.width ≤ buffer.length := by omega
      have hLength :
          c.width + length ≤ buffer.length := by omega
      have hTake :
          (buffer ++ second).take c.width =
            buffer.take c.width :=
        List.take_append_of_le_length hWidth
      have hSplit :
          c.split buffer =
            ((buffer.drop c.width).take length ::
                (c.split
                  (buffer.drop (c.width + length))).1,
              (c.split
                (buffer.drop (c.width + length))).2) := by
        rw [split, if_neg hPrefix]
        dsimp only
        rw [if_neg hLong]
      have hBoth :
          c.split (buffer ++ second) =
            ((buffer.drop c.width).take length ::
                (c.split
                  (buffer.drop (c.width + length) ++
                    second)).1,
              (c.split
                (buffer.drop (c.width + length) ++
                  second)).2) := by
        rw [split, if_neg, hTake]
        · dsimp only
          rw [if_neg, List.drop_append_of_le_length hLength,
            List.drop_append_of_le_length hWidth,
            List.take_append_of_le_length]
          · rw [List.length_drop]
            change length ≤ _
            omega
          · rw [List.length_append]
            change ¬ _ < c.width + length
            omega
        · rw [List.length_append]
          omega
      rw [hBoth, hSplit, ih]
      rfl

------------------------------------------------------------
-- Chunks
------------------------------------------------------------

/- Received in chunks or at once, the frames are the same. -/
theorem feedAll_eq_split
    {buffer : List β}
    (hBuffer : c.Incomplete buffer)
    (chunks : List (List β)) :
    c.feedAll buffer chunks =
      c.split (buffer ++ chunks.flatten) := by
  induction chunks generalizing buffer with
  | nil =>
      rw [List.flatten_nil, List.append_nil,
        c.split_of_incomplete hBuffer]
      rfl
  | cons chunk chunks ih =>
      have hNext := c.split_snd_incomplete (buffer ++ chunk)
      rw [List.flatten_cons, ← List.append_assoc,
        c.split_append (buffer ++ chunk)]
      unfold feedAll feed
      dsimp only
      rw [ih hNext]

/- A stream is received in full, in whatever chunks. -/
theorem feedAll_stream
    {payloads chunks : List (List β)}
    (hFits : c.Fits payloads)
    (hChunks : chunks.flatten = c.stream payloads) :
    c.feedAll [] chunks = (payloads, []) := by
  have hEmpty : c.Incomplete [] := Or.inl c.width_pos
  rw [c.feedAll_eq_split hEmpty, hChunks, List.nil_append]
  have hSplit := c.split_stream_append hFits []
  rw [List.append_nil, c.split_of_incomplete hEmpty,
    List.append_nil] at hSplit
  exact hSplit

/-
  A prefix of a stream gives the payloads of the frames that
  it holds in full, and leaves the rest of its bytes.
-/
theorem split_of_prefix
    {payloads : List (List β)}
    (hFits : c.Fits payloads)
    {arrived : List β}
    (hPrefix : arrived <+: c.stream payloads) :
    ∃ done later,
      payloads = done ++ later ∧
        (c.split arrived).1 = done ∧
        arrived = c.stream done ++ (c.split arrived).2 ∧
        ∀ next, later.head? = some next →
          (c.split arrived).2.length <
            (c.frame next).length := by
  induction payloads generalizing arrived with
  | nil =>
      have hNone : arrived = [] :=
        List.prefix_nil.mp hPrefix
      have hEmpty : c.Incomplete [] := Or.inl c.width_pos
      refine ⟨[], [], rfl, ?_, ?_, by simp⟩
      · rw [hNone, c.split_of_incomplete hEmpty]
      · rw [hNone, c.split_of_incomplete hEmpty]
        rfl
  | cons payload payloads ih =>
      have hHead := hFits payload List.mem_cons_self
      have hTail : c.Fits payloads :=
        fun other hOther =>
          hFits other (List.mem_cons_of_mem _ hOther)
      rw [stream_cons] at hPrefix
      by_cases hLength :
          arrived.length < (c.frame payload).length
      · have hFront : arrived <+: c.frame payload :=
          List.prefix_of_prefix_length_le hPrefix
            (List.prefix_append _ _) (Nat.le_of_lt hLength)
        have hIncomplete : c.Incomplete arrived := by
          by_cases hShort : arrived.length < c.width
          · exact Or.inl hShort
          · right
            have hTake :
                arrived.take c.width =
                  c.encode payload.length := by
              rcases hFront with ⟨missing, hMissing⟩
              have hBoth :=
                congrArg (List.take c.width) hMissing
              rw [List.take_append_of_le_length (by omega),
                frame,
                List.take_left' (c.length_encode _ hHead)]
                at hBoth
              exact hBoth
            rw [hTake, c.decode_encode _ hHead]
            rw [c.length_frame hHead] at hLength
            exact hLength
        refine ⟨[], payload :: payloads, rfl, ?_, ?_, ?_⟩
        · rw [c.split_of_incomplete hIncomplete]
        · rw [c.split_of_incomplete hIncomplete]
          rfl
        · intro next hNext
          rw [c.split_of_incomplete hIncomplete]
          rw [List.head?_cons, Option.some.injEq] at hNext
          rw [← hNext]
          exact hLength
      · have hFront : c.frame payload <+: arrived :=
          List.prefix_of_prefix_length_le
            (List.prefix_append _ _) hPrefix (by omega)
        rcases hFront with ⟨rest, rfl⟩
        rw [List.prefix_append_right_inj] at hPrefix
        rcases ih hTail hPrefix with
          ⟨done, later, hPayloads, hDone, hRest, hNext⟩
        refine ⟨payload :: done, later, ?_, ?_, ?_, ?_⟩
        · rw [hPayloads]
          rfl
        · rw [c.split_frame_append hHead, hDone]
        · rw [c.split_frame_append hHead, stream_cons,
            List.append_assoc, ← hRest]
        · rw [c.split_frame_append hHead]
          exact hNext

end LengthCodec

end ControlPlane
