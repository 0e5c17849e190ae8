import ControlPlane.Data.Framing
import ControlPlane.Data.Run

/-
  The framed messages of the named pipe.

  A message is the text of a JSON value in UTF-8 behind its
  length, which is a big-endian number of four bytes. The
  worker's client keeps what has arrived in a buffer and
  takes complete frames off it. The native server reads the
  pipe itself, first the length and then the payload, in
  whatever pieces the system hands out.

  Main declarations:
    * `bigEndian32` and `utf8Bytes`
    * `JsonRuntime` and `SecureIpcClient`
    * `writePipe` and `PipeReader`
    * `PipeReader.Follows`
    * `extracts_wire` and `framing_round_trip`
-/

------------------------------------------------------------
-- Lengths And Texts
------------------------------------------------------------

namespace ControlPlane

/- A number of four bytes, the most significant one first. -/
def toBigEndian (value : Nat) : List UInt8 :=
  [UInt8.ofNat (value / 16777216),
    UInt8.ofNat (value / 65536),
    UInt8.ofNat (value / 256), UInt8.ofNat value]

def ofBigEndian : List UInt8 → Nat
| [first, second, third, fourth] =>
    first.toNat * 16777216 + second.toNat * 65536 +
      third.toNat * 256 + fourth.toNat
| _ => 0

/- The numbers that four bytes can hold. -/
def uint32Limit : Nat := 4294967296

theorem ofBigEndian_toBigEndian
    {value : Nat}
    (hValue : value < uint32Limit) :
    ofBigEndian (toBigEndian value) = value := by
  unfold ofBigEndian toBigEndian
  unfold uint32Limit at hValue
  simp only [UInt8.toNat_ofNat']
  omega

/- The length prefix of a message. -/
def bigEndian32 : LengthCodec UInt8 where
  width := 4
  width_pos := Nat.succ_pos 3
  limit := uint32Limit
  encode := toBigEndian
  decode := ofBigEndian
  length_encode := fun _ _ => rfl
  decode_encode := fun _ hLength =>
    ofBigEndian_toBigEndian hLength

/- The bytes of a text in UTF-8. -/
def utf8Bytes (text : String) : List UInt8 :=
  text.toByteArray.data.toList

/- The text of bytes, if they are valid UTF-8. -/
def fromUtf8 (bytes : List UInt8) : Option String :=
  String.fromUTF8? ⟨bytes.toArray⟩

@[simp] theorem fromUtf8_utf8Bytes
    (text : String) :
    fromUtf8 (utf8Bytes text) = some text := by
  unfold fromUtf8 utf8Bytes String.fromUTF8?
  rw [Array.toArray_toList]
  exact dif_pos text.isValidUTF8

/- The bytes that a text is sent as. -/
def frameOf (text : String) : List UInt8 :=
  bigEndian32.frame (utf8Bytes text)

/- The bytes that texts are sent as, one after another. -/
def wireOf (texts : List String) : List UInt8 :=
  texts.flatMap frameOf

@[simp] theorem wireOf_nil : wireOf [] = [] := rfl

@[simp] theorem wireOf_cons
    (text : String)
    (texts : List String) :
    wireOf (text :: texts) = frameOf text ++ wireOf texts :=
  List.flatMap_cons

theorem wireOf_eq_stream
    (texts : List String) :
    wireOf texts = bigEndian32.stream (texts.map utf8Bytes) :=
  (List.flatMap_map utf8Bytes bigEndian32.frame texts).symm

------------------------------------------------------------
-- The Client Of The Worker
------------------------------------------------------------

/-
  What the runtime does with values and texts. Bytes that
  are not valid UTF-8 are replaced in some way.
-/
structure JsonRuntime (μ : Type) where
  stringify : μ → String
  parse : String → Option μ
  replaceInvalid : List UInt8 → String
  validEnvelope : μ → Bool

namespace JsonRuntime

variable {μ : Type} (json : JsonRuntime μ)

/- Parsing a written value gives the value back. -/
def RoundTrips : Prop :=
  ∀ message, json.parse (json.stringify message) =
    some message

/- The text of a frame, as the client decodes it. -/
def decodeText (bytes : List UInt8) : String :=
  (fromUtf8 bytes).getD (json.replaceInvalid bytes)

end JsonRuntime

/- What the client emits to its listeners. -/
inductive IpcEmitted (μ : Type) where
| envelope (value : μ)
| message (value : μ)
| error
deriving DecidableEq, Repr

/- The value of a message event. -/
def IpcEmitted.message? {μ : Type} :
    IpcEmitted μ → Option μ
| .message value => some value
| _ => none

inductive SendError where
| notConnected
| lengthOutOfRange
deriving DecidableEq, Repr

structure SecureIpcClient where
  authenticated : Bool
  rxBuffer : List UInt8
deriving DecidableEq, Repr

namespace SecureIpcClient

variable {μ : Type} (json : JsonRuntime μ)

/- The bytes that are written for a message. -/
def send
    (client : SecureIpcClient)
    (message : μ) : Except SendError (List UInt8) :=
  let payload := utf8Bytes (json.stringify message)
  if client.authenticated = false then
    .error .notConnected
  else if uint32Limit ≤ payload.length then
    .error .lengthOutOfRange
  else
    .ok (toBigEndian payload.length ++ payload)

/- What a complete frame is emitted as. -/
def handleFrame
    (bytes : List UInt8) : List (IpcEmitted μ) :=
  match json.parse (json.decodeText bytes) with
  | none => [.error]
  | some value =>
      if json.validEnvelope value then
        [.envelope value, .message value]
      else
        [.message value]

/- Receive a chunk, up to the last complete frame. -/
def handleData
    (client : SecureIpcClient)
    (chunk : List UInt8) :
    SecureIpcClient × List (IpcEmitted μ) :=
  let taken := bigEndian32.feed client.rxBuffer chunk
  ({ client with rxBuffer := taken.2 },
    taken.1.flatMap (handleFrame json))

/- Receive chunks one after another. -/
def handleChunks
    (client : SecureIpcClient) :
    List (List UInt8) →
      SecureIpcClient × List (IpcEmitted μ)
| [] => (client, [])
| chunk :: chunks =>
    let now := client.handleData json chunk
    let later := handleChunks now.1 chunks
    (later.1, now.2 ++ later.2)

/- A client that has just authenticated. -/
def connected : SecureIpcClient where
  authenticated := true
  rxBuffer := []

theorem handleChunks_eq
    (client : SecureIpcClient)
    (chunks : List (List UInt8)) :
    client.handleChunks json chunks =
      ({ client with
          rxBuffer :=
            (bigEndian32.feedAll client.rxBuffer chunks).2 },
        (bigEndian32.feedAll client.rxBuffer
          chunks).1.flatMap (handleFrame json)) := by
  induction chunks generalizing client with
  | nil => rfl
  | cons chunk chunks ih =>
      unfold handleChunks LengthCodec.feedAll
      dsimp only
      rw [ih, List.flatMap_append]
      rfl

/- The message of a frame, and nothing besides, arrives. -/
theorem handleFrame_stringify
    (hRoundTrips : json.RoundTrips)
    (message : μ) :
    (handleFrame json
        (utf8Bytes (json.stringify message))).filterMap
          IpcEmitted.message? = [message] ∧
      IpcEmitted.error ∉
        handleFrame json
          (utf8Bytes (json.stringify message)) := by
  have hText :
      json.decodeText (utf8Bytes (json.stringify message)) =
        json.stringify message := by
    unfold JsonRuntime.decodeText
    rw [fromUtf8_utf8Bytes, Option.getD_some]
  unfold handleFrame
  rw [hText, hRoundTrips message]
  dsimp only
  split
  · exact ⟨rfl, by simp⟩
  · exact ⟨rfl, by simp⟩

theorem handleFrames_stringify
    (hRoundTrips : json.RoundTrips)
    (messages : List μ) :
    ((messages.map fun message =>
        utf8Bytes (json.stringify message)).flatMap
          (handleFrame json)).filterMap
            IpcEmitted.message? = messages ∧
      IpcEmitted.error ∉
        (messages.map fun message =>
          utf8Bytes (json.stringify message)).flatMap
            (handleFrame json) := by
  induction messages with
  | nil => exact ⟨rfl, List.not_mem_nil⟩
  | cons message messages ih =>
      rcases handleFrame_stringify json hRoundTrips message
        with ⟨hMessage, hError⟩
      rw [List.map_cons, List.flatMap_cons,
        List.filterMap_append, hMessage, ih.1,
        List.mem_append]
      exact ⟨rfl, fun hEither =>
        hEither.elim hError ih.2⟩

end SecureIpcClient

------------------------------------------------------------
-- The Writer Of The Server
------------------------------------------------------------

/- The frame of a text, with the length as a `u32`. -/
def pipeFrame (text : String) : List UInt8 :=
  toBigEndian ((utf8Bytes text).length % uint32Limit) ++
    utf8Bytes text

/-
  Write a frame as the system takes it, the given number of
  bytes at each call: the pieces and whether all is written.
-/
def writeLoop
    (frame : List UInt8) :
    List Nat → List (List UInt8) × Bool
| [] => ([], frame.isEmpty)
| taken :: calls =>
    if frame.isEmpty then ([], true)
    else if taken = 0 then ([], false)
    else
      let later := writeLoop (frame.drop taken) calls
      (frame.take taken :: later.1, later.2)

def writePipe
    (text : String)
    (calls : List Nat) : List (List UInt8) × Bool :=
  writeLoop (pipeFrame text) calls

theorem flatten_writeLoop
    (frame : List UInt8)
    (calls : List Nat)
    (hWritten : (writeLoop frame calls).2 = true) :
    (writeLoop frame calls).1.flatten = frame := by
  induction calls generalizing frame with
  | nil =>
      unfold writeLoop at hWritten ⊢
      exact (List.isEmpty_iff.mp hWritten).symm
  | cons taken calls ih =>
      unfold writeLoop at hWritten ⊢
      by_cases hEmpty : frame.isEmpty = true
      · rw [if_pos hEmpty]
        exact (List.isEmpty_iff.mp hEmpty).symm
      · rw [if_neg hEmpty] at hWritten ⊢
        by_cases hTaken : taken = 0
        · rw [if_pos hTaken] at hWritten
          cases hWritten
        · rw [if_neg hTaken] at hWritten ⊢
          dsimp only at hWritten ⊢
          rw [List.flatten_cons, ih _ hWritten,
            List.take_append_drop]

/- Both sides write the same bytes for a text. -/
theorem pipeFrame_eq_frameOf
    {text : String}
    (hLength : (utf8Bytes text).length < uint32Limit) :
    pipeFrame text = frameOf text := by
  unfold pipeFrame
  rw [Nat.mod_eq_of_lt hLength]
  rfl

------------------------------------------------------------
-- The Reader Of The Server
------------------------------------------------------------

/- The largest payload that the server reads. -/
def maxMessageBytes : Nat := 10485760

/- What the thread of a connection is reading. -/
inductive ReadPhase where
| waiting
| header (got : List UInt8)
| body (length : Nat) (got : List UInt8)
deriving DecidableEq, Repr

/-
  The pipe with the bytes that are not read yet, and the
  texts that were handed on.
-/
structure PipeReader where
  pipe : List UInt8
  phase : ReadPhase
  extracted : List String
  isOpen : Bool
deriving DecidableEq, Repr

/-
  Bytes arrive in the pipe, or the thread takes a turn in
  which a read returns at most `count + 1` bytes.
-/
inductive PipeEvent where
| arrive (chunk : List UInt8)
| turn (count : Nat)
deriving DecidableEq, Repr

namespace PipeReader

/- A payload is handed on when it is complete and valid. -/
def afterBody
    (reader : PipeReader)
    (length : Nat)
    (got : List UInt8) : PipeReader :=
  if got.length < length then
    { reader with phase := .body length got }
  else
    { reader with
      phase := .waiting
      extracted :=
        reader.extracted ++ (fromUtf8 got).toList }

/- The payload follows a complete length. -/
def afterHeader
    (reader : PipeReader)
    (got : List UInt8) : PipeReader :=
  if got.length < 4 then
    { reader with phase := .header got }
  else if maxMessageBytes < ofBigEndian got then
    { reader with isOpen := false }
  else
    reader.afterBody (ofBigEndian got) []

/- One turn of the loop over the pipe. -/
def takeTurn
    (reader : PipeReader)
    (count : Nat) : PipeReader :=
  if reader.isOpen = false then reader
  else
    match reader.phase with
    | .waiting =>
        if reader.pipe.length < 4 then reader
        else { reader with phase := .header [] }
    | .header got =>
        let size := min (count + 1) (4 - got.length)
        { reader with
          pipe := reader.pipe.drop size }.afterHeader
            (got ++ reader.pipe.take size)
    | .body length got =>
        let size := min (count + 1) (length - got.length)
        { reader with
          pipe := reader.pipe.drop size }.afterBody
            length (got ++ reader.pipe.take size)

def step
    (reader : PipeReader) : PipeEvent → PipeReader
| .arrive chunk =>
    { reader with pipe := reader.pipe ++ chunk }
| .turn count => reader.takeTurn count

def run
    (reader : PipeReader)
    (events : List PipeEvent) : PipeReader :=
  events.foldl step reader

/- A connection that has just been authenticated. -/
def accepted : PipeReader where
  pipe := []
  phase := .waiting
  extracted := []
  isOpen := true

end PipeReader

/- The bytes that arrive in a run. -/
def arrivals : List PipeEvent → List UInt8
| [] => []
| .arrive chunk :: events => chunk ++ arrivals events
| .turn _ :: events => arrivals events

------------------------------------------------------------
-- What The Reader Holds
------------------------------------------------------------

theorem length_toBigEndian
    (value : Nat) : (toBigEndian value).length = 4 := rfl

theorem frameOf_eq
    (text : String) :
    frameOf text =
      toBigEndian (utf8Bytes text).length ++
        utf8Bytes text :=
  rfl

theorem wireOf_append
    (first second : List String) :
    wireOf (first ++ second) =
      wireOf first ++ wireOf second :=
  List.flatMap_append

/- The server reads each of the texts. -/
def Readable (texts : List String) : Prop :=
  ∀ text ∈ texts, (utf8Bytes text).length ≤ maxMessageBytes

theorem Readable.head
    {text : String}
    {texts : List String}
    (hReadable : Readable (text :: texts)) :
    (utf8Bytes text).length < uint32Limit := by
  have hShort := hReadable text List.mem_cons_self
  unfold maxMessageBytes at hShort
  unfold uint32Limit
  omega

theorem Readable.right
    {first second : List String}
    (hReadable : Readable (first ++ second)) :
    Readable second :=
  fun other hOther =>
    hReadable other (List.mem_append_right _ hOther)

namespace PipeReader

/- The bytes that are not handed on yet. -/
def residual (reader : PipeReader) : List UInt8 :=
  match reader.phase with
  | .waiting => reader.pipe
  | .header got => got ++ reader.pipe
  | .body length got =>
      toBigEndian length ++ (got ++ reader.pipe)

/- What was read for a phase is less than it needs. -/
def PhaseFits (reader : PipeReader) : Prop :=
  match reader.phase with
  | .waiting => True
  | .header got =>
      got.length < 4 ∧ 4 ≤ got.length + reader.pipe.length
  | .body length got =>
      got.length < length ∧ length < uint32Limit

/-
  The reader has handed on the first texts, and holds the
  wire of the later ones but for the bytes still to come.
-/
structure Follows
    (reader : PipeReader)
    (future : List UInt8)
    (done later : List String) : Prop where
  isOpen : reader.isOpen = true
  extracted : reader.extracted = done
  residual : reader.residual ++ future = wireOf later
  phase : reader.PhaseFits

theorem follows_accepted
    (texts : List String) :
    accepted.Follows (wireOf texts) [] texts where
  isOpen := rfl
  extracted := rfl
  residual := rfl
  phase := trivial

/- A chunk only moves from the future into the pipe. -/
theorem follows_arrive
    {reader : PipeReader}
    {chunk future : List UInt8}
    {done later : List String}
    (hFollows :
      reader.Follows (chunk ++ future) done later) :
    (reader.step (.arrive chunk)).Follows future done
      later := by
  rcases hFollows with
    ⟨hOpen, hExtracted, hResidual, hPhase⟩
  refine ⟨hOpen, hExtracted, ?_, ?_⟩
  · rw [← hResidual, ← List.append_assoc]
    congr 1
    unfold residual step
    dsimp only
    cases reader.phase with
    | waiting => rfl
    | header got =>
        exact (List.append_assoc _ _ _).symm
    | body length got =>
        dsimp only
        rw [List.append_assoc, List.append_assoc]
  · unfold PhaseFits step at *
    dsimp only
    cases hPhaseIs : reader.phase with
    | waiting => trivial
    | header got =>
        rw [hPhaseIs] at hPhase
        dsimp only at hPhase ⊢
        rw [List.length_append]
        omega
    | body length got =>
        rw [hPhaseIs] at hPhase
        exact hPhase

------------------------------------------------------------
-- Turns Of The Reader
------------------------------------------------------------

/- More of a payload has been read. -/
theorem follows_afterBody
    {reader : PipeReader}
    {got future : List UInt8}
    {done later : List String}
    {next : String}
    (hOpen : reader.isOpen = true)
    (hExtracted : reader.extracted = done)
    (hLength : (utf8Bytes next).length < uint32Limit)
    (hGot : got.length ≤ (utf8Bytes next).length)
    (hRest :
      got ++ reader.pipe ++ future =
        utf8Bytes next ++ wireOf later) :
    ∃ now rest,
      next :: later = now ++ rest ∧
        (reader.afterBody (utf8Bytes next).length
          got).Follows future (done ++ now) rest := by
  unfold afterBody
  by_cases hMore : got.length < (utf8Bytes next).length
  · rw [if_pos hMore]
    refine ⟨[], next :: later, rfl, hOpen, ?_, ?_, ?_⟩
    · rw [List.append_nil]
      exact hExtracted
    · rw [wireOf_cons, frameOf_eq, List.append_assoc,
        ← hRest]
      unfold residual
      dsimp only
      rw [List.append_assoc]
    · exact ⟨hMore, hLength⟩
  · rw [if_neg hMore]
    have hSame : got.length = (utf8Bytes next).length := by
      omega
    rw [List.append_assoc] at hRest
    rcases List.append_inj hRest hSame with
      ⟨hPayload, hLater⟩
    refine ⟨[next], later, rfl, hOpen, ?_, hLater, trivial⟩
    dsimp only
    rw [hPayload, fromUtf8_utf8Bytes, hExtracted]
    rfl

/- More of a length has been read. -/
theorem follows_afterHeader
    {reader : PipeReader}
    {got future : List UInt8}
    {done later : List String}
    (hReadable : Readable later)
    (hOpen : reader.isOpen = true)
    (hExtracted : reader.extracted = done)
    (hGot : got.length ≤ 4)
    (hEnough : 4 ≤ got.length + reader.pipe.length)
    (hRest :
      got ++ reader.pipe ++ future = wireOf later) :
    ∃ now rest,
      later = now ++ rest ∧
        (reader.afterHeader got).Follows future
          (done ++ now) rest := by
  unfold afterHeader
  by_cases hMore : got.length < 4
  · rw [if_pos hMore]
    refine ⟨[], later, rfl, hOpen, ?_, hRest,
      hMore, hEnough⟩
    rw [List.append_nil]
    exact hExtracted
  · rw [if_neg hMore]
    have hFour : got.length = 4 := by omega
    cases later with
    | nil =>
        have hNone := congrArg List.length hRest
        rw [List.append_assoc, List.length_append, hFour,
          wireOf_nil, List.length_nil] at hNone
        omega
    | cons next later =>
        rw [wireOf_cons, frameOf_eq, List.append_assoc,
          List.append_assoc] at hRest
        rcases List.append_inj hRest
            (hFour.trans (length_toBigEndian _).symm) with
          ⟨hHeader, hPayload⟩
        have hShort := hReadable next List.mem_cons_self
        have hLength := hReadable.head
        rw [hHeader, ofBigEndian_toBigEndian hLength,
          if_neg (Nat.not_lt.mpr hShort)]
        exact follows_afterBody hOpen hExtracted hLength
          (Nat.zero_le _) hPayload

/- The length that was read is the length of the text. -/
theorem body_of_wire
    {length : Nat}
    {bytes : List UInt8}
    {next : String}
    {later : List String}
    (hLength : length < uint32Limit)
    (hNext : (utf8Bytes next).length < uint32Limit)
    (hWire :
      toBigEndian length ++ bytes =
        wireOf (next :: later)) :
    length = (utf8Bytes next).length ∧
      bytes = utf8Bytes next ++ wireOf later := by
  rw [wireOf_cons, frameOf_eq, List.append_assoc] at hWire
  rcases List.append_inj hWire rfl with
    ⟨hHeader, hPayload⟩
  refine ⟨?_, hPayload⟩
  rw [← ofBigEndian_toBigEndian hLength, hHeader,
    ofBigEndian_toBigEndian hNext]

/- A turn hands on texts in their order, or none. -/
theorem follows_takeTurn
    {reader : PipeReader}
    {future : List UInt8}
    {done later : List String}
    (hReadable : Readable later)
    (hFollows : reader.Follows future done later)
    (count : Nat) :
    ∃ now rest,
      later = now ++ rest ∧
        (reader.takeTurn count).Follows future
          (done ++ now) rest := by
  rcases hFollows with
    ⟨hOpen, hExtracted, hResidual, hPhase⟩
  have hStays :
      reader.Follows future (done ++ []) later := by
    rw [List.append_nil]
    exact ⟨hOpen, hExtracted, hResidual, hPhase⟩
  unfold takeTurn
  rw [if_neg (by simp [hOpen])]
  cases hPhaseIs : reader.phase with
  | waiting =>
      dsimp only
      by_cases hShort : reader.pipe.length < 4
      · rw [if_pos hShort]
        exact ⟨[], later, rfl, hStays⟩
      · rw [if_neg hShort]
        unfold residual at hResidual
        rw [hPhaseIs] at hResidual
        refine ⟨[], later, rfl, hOpen, ?_, hResidual, ?_⟩
        · rw [List.append_nil]
          exact hExtracted
        · refine ⟨Nat.succ_pos 3, ?_⟩
          dsimp only
          rw [List.length_nil]
          omega
  | header got =>
      unfold PhaseFits at hPhase
      unfold residual at hResidual
      rw [hPhaseIs] at hPhase hResidual
      dsimp only at hPhase hResidual ⊢
      apply follows_afterHeader hReadable
      · exact hOpen
      · exact hExtracted
      · rw [List.length_append, List.length_take]
        omega
      · rw [List.length_append, List.length_take]
        dsimp only
        rw [List.length_drop]
        omega
      · dsimp only
        rw [List.append_assoc got, List.take_append_drop]
        exact hResidual
  | body length got =>
      unfold PhaseFits at hPhase
      unfold residual at hResidual
      rw [hPhaseIs] at hPhase hResidual
      dsimp only at hPhase hResidual ⊢
      cases later with
      | nil =>
          have hNone := congrArg List.length hResidual
          rw [wireOf_nil, List.append_assoc,
            List.length_append, length_toBigEndian,
            List.length_nil] at hNone
          omega
      | cons next later =>
          rw [List.append_assoc] at hResidual
          rcases body_of_wire hPhase.2 hReadable.head
              hResidual with
            ⟨hLength, hPayload⟩
          rw [hLength] at hPhase ⊢
          apply follows_afterBody _ _ hReadable.head
          · rw [List.length_append, List.length_take]
            omega
          · dsimp only
            rw [List.append_assoc got,
              List.take_append_drop]
            exact hPayload
          · exact hOpen
          · exact hExtracted

------------------------------------------------------------
-- Runs Of The Reader
------------------------------------------------------------

theorem follows_step
    {reader : PipeReader}
    {future : List UInt8}
    {done later : List String}
    (event : PipeEvent)
    (hReadable : Readable later)
    (hFollows :
      reader.Follows (arrivals [event] ++ future) done
        later) :
    ∃ now rest,
      later = now ++ rest ∧
        (reader.step event).Follows future (done ++ now)
          rest := by
  cases event with
  | arrive chunk =>
      unfold arrivals arrivals at hFollows
      rw [List.append_nil] at hFollows
      refine ⟨[], later, rfl, ?_⟩
      rw [List.append_nil]
      exact follows_arrive hFollows
  | turn count =>
      exact follows_takeTurn hReadable hFollows count

theorem arrivals_cons
    (event : PipeEvent)
    (events : List PipeEvent) :
    arrivals (event :: events) =
      arrivals [event] ++ arrivals events := by
  cases event with
  | arrive chunk =>
      change chunk ++ arrivals events =
        chunk ++ [] ++ arrivals events
      rw [List.append_nil]
  | turn count => rfl

theorem follows_run
    {reader : PipeReader}
    {future : List UInt8}
    {done later : List String}
    (events : List PipeEvent)
    (hReadable : Readable later)
    (hFollows :
      reader.Follows (arrivals events ++ future) done
        later) :
    ∃ now rest,
      later = now ++ rest ∧
        (reader.run events).Follows future (done ++ now)
          rest := by
  induction events generalizing reader done later with
  | nil =>
      refine ⟨[], later, rfl, ?_⟩
      rw [List.append_nil]
      exact hFollows
  | cons event events ih =>
      rw [arrivals_cons, List.append_assoc] at hFollows
      rcases follows_step event hReadable hFollows with
        ⟨now, rest, rfl, hNext⟩
      rcases ih hReadable.right hNext with
        ⟨more, rest, rfl, hLast⟩
      refine ⟨now ++ more, rest, ?_, ?_⟩
      · rw [List.append_assoc]
      · rw [← List.append_assoc]
        exact hLast

------------------------------------------------------------
-- Progress Of The Reader
------------------------------------------------------------

/- Every turn with something to read lowers this number. -/
def work (reader : PipeReader) : Nat :=
  2 * reader.pipe.length +
    if reader.phase = .waiting then 1 else 0

theorem work_le
    (reader : PipeReader) :
    reader.work ≤ 2 * reader.pipe.length + 1 := by
  unfold work
  split
  · exact Nat.le_refl _
  · exact Nat.le_succ _

theorem pipe_afterBody
    (reader : PipeReader)
    (length : Nat)
    (got : List UInt8) :
    (reader.afterBody length got).pipe = reader.pipe := by
  unfold afterBody
  split <;> rfl

theorem pipe_afterHeader
    (reader : PipeReader)
    (got : List UInt8) :
    (reader.afterHeader got).pipe = reader.pipe := by
  unfold afterHeader
  split
  · rfl
  · split
    · rfl
    · exact pipe_afterBody reader _ []

/- The reader gets on while a text is still to be read. -/
theorem work_takeTurn_lt
    {reader : PipeReader}
    {done later : List String}
    (hReadable : Readable later)
    (hFollows : reader.Follows [] done later)
    (hLater : later ≠ [])
    (count : Nat) :
    (reader.takeTurn count).work < reader.work := by
  rcases hFollows with
    ⟨hOpen, hExtracted, hResidual, hPhase⟩
  rw [List.append_nil] at hResidual
  rcases List.exists_cons_of_ne_nil hLater with
    ⟨next, rest, rfl⟩
  have hSize := congrArg List.length hResidual
  rw [wireOf_cons, frameOf_eq, List.length_append,
    List.length_append, length_toBigEndian] at hSize
  unfold takeTurn
  rw [if_neg (by simp [hOpen])]
  cases hPhaseIs : reader.phase with
  | waiting =>
      unfold residual at hSize
      rw [hPhaseIs] at hSize
      dsimp only at hSize ⊢
      rw [if_neg (by omega)]
      unfold work
      rw [hPhaseIs, if_pos rfl, if_neg ReadPhase.noConfusion]
      exact Nat.lt_succ_self _
  | header got =>
      unfold PhaseFits at hPhase
      rw [hPhaseIs] at hPhase
      dsimp only at hPhase ⊢
      refine Nat.lt_of_le_of_lt (work_le _) ?_
      rw [pipe_afterHeader]
      unfold work
      dsimp only
      rw [hPhaseIs, if_neg ReadPhase.noConfusion,
        List.length_drop]
      omega
  | body length got =>
      unfold PhaseFits at hPhase
      unfold residual at hResidual
      rw [hPhaseIs] at hPhase hResidual
      dsimp only at hPhase hResidual ⊢
      rcases body_of_wire hPhase.2 hReadable.head
          hResidual with
        ⟨hLength, hPayload⟩
      have hLeft := congrArg List.length hPayload
      rw [List.length_append, List.length_append] at hLeft
      refine Nat.lt_of_le_of_lt (work_le _) ?_
      rw [pipe_afterBody]
      unfold work
      dsimp only
      rw [hPhaseIs, if_neg ReadPhase.noConfusion,
        List.length_drop]
      omega

/- With nothing left to read the reader stays. -/
theorem follows_turns_nil
    {reader : PipeReader}
    {done : List String}
    (turns : List Nat)
    (hFollows : reader.Follows [] done []) :
    (reader.run (turns.map .turn)).Follows [] done [] := by
  induction turns generalizing reader with
  | nil => exact hFollows
  | cons count turns ih =>
      have hReadable : Readable [] :=
        fun _ hText => absurd hText List.not_mem_nil
      rcases follows_takeTurn hReadable hFollows count with
        ⟨now, rest, hNone, hNext⟩
      rcases List.nil_eq_append_iff.mp hNone with
        ⟨rfl, rfl⟩
      rw [List.append_nil] at hNext
      exact ih hNext

/- Enough turns hand on all texts that have arrived. -/
theorem follows_turns
    {reader : PipeReader}
    {done later : List String}
    (turns : List Nat)
    (hReadable : Readable later)
    (hFollows : reader.Follows [] done later)
    (hTurns : reader.work ≤ turns.length) :
    (reader.run (turns.map .turn)).Follows []
      (done ++ later) [] := by
  induction turns generalizing reader done later with
  | nil =>
      by_cases hLater : later = []
      · rw [hLater, List.append_nil]
        rw [hLater] at hFollows
        exact hFollows
      · have hLess :=
          work_takeTurn_lt hReadable hFollows hLater 0
        rw [List.length_nil] at hTurns
        omega
  | cons count turns ih =>
      by_cases hLater : later = []
      · rw [hLater, List.append_nil]
        rw [hLater] at hFollows
        exact follows_turns_nil (count :: turns) hFollows
      · have hLess :=
          work_takeTurn_lt hReadable hFollows hLater count
        rcases follows_takeTurn hReadable hFollows count
          with ⟨now, rest, rfl, hNext⟩
        rw [← List.append_assoc]
        refine ih hReadable.right hNext ?_
        rw [List.length_cons] at hTurns
        change (reader.takeTurn count).work ≤ _
        omega

theorem work_le_wire
    {reader : PipeReader}
    {done later : List String}
    (hFollows : reader.Follows [] done later) :
    reader.work ≤ 2 * (wireOf later).length + 1 := by
  have hResidual := congrArg List.length hFollows.residual
  rw [List.append_nil] at hResidual
  have hPipe : reader.pipe.length ≤ reader.residual.length := by
    unfold residual
    split
    · exact Nat.le_refl _
    · rw [List.length_append]
      omega
    · rw [List.length_append, List.length_append]
      omega
  have hWork := reader.work_le
  omega

/-
  The server hands on texts in their order while they
  arrive, and all of them once they have arrived.
-/
theorem extracts_wire
    {texts : List String}
    (hReadable : Readable texts)
    {events : List PipeEvent}
    (hArrived : arrivals events = wireOf texts) :
    (accepted.run events).extracted <+: texts ∧
      ∀ turns : List Nat,
        2 * (wireOf texts).length + 1 ≤ turns.length →
          ((accepted.run events).run
            (turns.map .turn)).extracted = texts := by
  have hStart :
      accepted.Follows (arrivals events ++ []) [] texts := by
    rw [List.append_nil, hArrived]
    exact follows_accepted texts
  rcases follows_run events hReadable hStart with
    ⟨now, rest, rfl, hNow⟩
  rw [List.nil_append] at hNow
  refine ⟨?_, ?_⟩
  · rw [hNow.extracted]
    exact List.prefix_append _ _
  · intro turns hTurns
    have hWork := work_le_wire hNow
    rw [wireOf_append, List.length_append] at hTurns
    exact (follows_turns turns hReadable.right hNow
      (by omega)).extracted

end PipeReader

------------------------------------------------------------
-- The Round Trip
------------------------------------------------------------

namespace SecureIpcClient

variable {μ : Type} (json : JsonRuntime μ)

/- The messages that were emitted, in their order. -/
def messagesOf
    (emitted : List (IpcEmitted μ)) : List μ :=
  emitted.filterMap IpcEmitted.message?

/- The frames of messages one after another. -/
def wire (messages : List μ) : List UInt8 :=
  wireOf (messages.map json.stringify)

/- Every encoding is shorter than a length can say. -/
def Framed (messages : List μ) : Prop :=
  ∀ message ∈ messages,
    (utf8Bytes (json.stringify message)).length <
      uint32Limit

theorem wire_eq_stream
    (messages : List μ) :
    wire json messages =
      bigEndian32.stream
        (messages.map fun message =>
          utf8Bytes (json.stringify message)) := by
  unfold wire
  rw [wireOf_eq_stream, List.map_map]
  rfl

theorem fits_of_framed
    {messages : List μ}
    (hFramed : Framed json messages) :
    bigEndian32.Fits
      (messages.map fun message =>
        utf8Bytes (json.stringify message)) := by
  intro payload hPayload
  rcases List.mem_map.mp hPayload with
    ⟨message, hMessage, rfl⟩
  exact hFramed message hMessage

/- Client and server send the frame of a message. -/
theorem send_eq_frameOf
    {message : μ}
    (hLength :
      (utf8Bytes (json.stringify message)).length <
        uint32Limit) :
    connected.send json message =
      .ok (frameOf (json.stringify message)) := by
  unfold send connected
  dsimp only
  rw [if_neg Bool.noConfusion,
    if_neg (Nat.not_le.mpr hLength)]
  rfl

/- What is emitted for chunks of a prefix of the wire. -/
theorem handleChunks_of_prefix
    (hRoundTrips : json.RoundTrips)
    {messages : List μ}
    (hFramed : Framed json messages)
    {chunks : List (List UInt8)}
    (hPrefix : chunks.flatten <+: wire json messages) :
    ∃ done later,
      messages = done ++ later ∧
        messagesOf (connected.handleChunks json chunks).2 =
          done ∧
        IpcEmitted.error ∉
          (connected.handleChunks json chunks).2 ∧
        chunks.flatten =
          wire json done ++
            (connected.handleChunks json
              chunks).1.rxBuffer ∧
        ∀ next,
          later.head? = some next →
            (connected.handleChunks json
                chunks).1.rxBuffer.length <
              (frameOf (json.stringify next)).length := by
  have hEmpty : bigEndian32.Incomplete [] :=
    Or.inl bigEndian32.width_pos
  rw [wire_eq_stream] at hPrefix
  rcases bigEndian32.split_of_prefix
      (fits_of_framed json hFramed) hPrefix with
    ⟨payloads, others, hPayloads, hDone, hRest, hNext⟩
  rcases List.map_eq_append_iff.mp hPayloads with
    ⟨done, later, rfl, rfl, rfl⟩
  rw [← wire_eq_stream] at hRest
  rw [handleChunks_eq, connected,
    bigEndian32.feedAll_eq_split hEmpty, List.nil_append,
    hDone]
  rcases handleFrames_stringify json hRoundTrips done with
    ⟨hMessages, hErrors⟩
  refine ⟨done, later, rfl, hMessages, hErrors, hRest, ?_⟩
  intro next hHead
  apply hNext (utf8Bytes (json.stringify next))
  rw [List.head?_map, hHead]
  rfl

/- All messages are emitted for chunks of the whole wire. -/
theorem handleChunks_of_wire
    (hRoundTrips : json.RoundTrips)
    {messages : List μ}
    (hFramed : Framed json messages)
    {chunks : List (List UInt8)}
    (hChunks : chunks.flatten = wire json messages) :
    messagesOf (connected.handleChunks json chunks).2 =
        messages ∧
      IpcEmitted.error ∉
        (connected.handleChunks json chunks).2 ∧
      (connected.handleChunks json chunks).1.rxBuffer =
        [] := by
  rw [wire_eq_stream] at hChunks
  rw [handleChunks_eq, connected,
    bigEndian32.feedAll_stream
      (fits_of_framed json hFramed) hChunks]
  rcases handleFrames_stringify json hRoundTrips messages
    with ⟨hMessages, hErrors⟩
  exact ⟨hMessages, hErrors, rfl⟩

/-
  Messages arrive once and in order, in whatever chunks the
  frames of either writer are delivered, and a prefix of the
  frames gives the messages that it holds in full. The
  server takes the same texts off the same bytes.
-/
theorem framing_round_trip
    (hRoundTrips : json.RoundTrips)
    (messages : List μ)
    (hFramed : Framed json messages) :
    (∀ message ∈ messages,
      connected.send json message =
          .ok (frameOf (json.stringify message)) ∧
        ∀ calls,
          (writePipe (json.stringify message) calls).2 =
              true →
            (writePipe (json.stringify message)
                calls).1.flatten =
              frameOf (json.stringify message)) ∧
    (∀ chunks : List (List UInt8),
      chunks.flatten = wire json messages →
        messagesOf (connected.handleChunks json chunks).2 =
            messages ∧
          IpcEmitted.error ∉
            (connected.handleChunks json chunks).2 ∧
          (connected.handleChunks json chunks).1.rxBuffer =
            []) ∧
    (∀ chunks : List (List UInt8),
      chunks.flatten <+: wire json messages →
        ∃ done later,
          messages = done ++ later ∧
            messagesOf
                (connected.handleChunks json chunks).2 =
              done ∧
            IpcEmitted.error ∉
              (connected.handleChunks json chunks).2 ∧
            chunks.flatten =
              wire json done ++
                (connected.handleChunks json
                  chunks).1.rxBuffer ∧
            ∀ next,
              later.head? = some next →
                (connected.handleChunks json
                    chunks).1.rxBuffer.length <
                  (frameOf
                    (json.stringify next)).length) ∧
    (Readable (messages.map json.stringify) →
      ∀ events,
        arrivals events = wire json messages →
          (PipeReader.accepted.run events).extracted <+:
              messages.map json.stringify ∧
            ∀ turns : List Nat,
              2 * (wire json messages).length + 1 ≤
                  turns.length →
                ((PipeReader.accepted.run events).run
                    (turns.map .turn)).extracted =
                  messages.map json.stringify) := by
  refine ⟨?_, ?_, ?_, ?_⟩
  · intro message hMessage
    have hLength := hFramed message hMessage
    refine ⟨send_eq_frameOf json hLength, ?_⟩
    intro calls hWritten
    rw [← pipeFrame_eq_frameOf hLength]
    exact flatten_writeLoop _ calls hWritten
  · intro chunks hChunks
    exact handleChunks_of_wire json hRoundTrips hFramed
      hChunks
  · intro chunks hPrefix
    exact handleChunks_of_prefix json hRoundTrips hFramed
      hPrefix
  · intro hReadable events hArrived
    exact PipeReader.extracts_wire hReadable hArrived

/- The texts of the two truth values. -/
def flagRuntime : JsonRuntime Bool where
  stringify := fun flag => if flag then "true" else "false"
  parse := fun text =>
    if text = "true" then some true
    else if text = "false" then some false
    else none
  replaceInvalid := fun _ => "\uFFFD"
  validEnvelope := fun _ => false

theorem flags_arrive_cut_in_the_length :
    messagesOf (connected.handleChunks flagRuntime
        [[0, 0], [0, 4, 116, 114], [117, 101, 0],
          [0, 0, 5, 102, 97, 108, 115, 101]]).2 =
      [true, false] := by
  have hRoundTrips : flagRuntime.RoundTrips := by
    unfold JsonRuntime.RoundTrips
    decide
  have hFramed : Framed flagRuntime [true, false] := by
    unfold Framed
    decide +kernel
  rcases framing_round_trip flagRuntime hRoundTrips
      [true, false] hFramed with
    ⟨-, hWire, -⟩
  exact (hWire [[0, 0], [0, 4, 116, 114], [117, 101, 0],
    [0, 0, 5, 102, 97, 108, 115, 101]]
      (by decide +kernel)).1

end SecureIpcClient

end ControlPlane
