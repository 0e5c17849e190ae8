import ControlPlane.Native.PipeServer

/-
  Runs of the native server, in any order of steps.

  What happens to a connection is one story: its client is
  accepted with the key of its process, is dropped or proves
  that it has the key, and only then is it connected. The
  callbacks hand on what its reader takes out of the bytes
  that follow the proof, and end with a disconnection.

  Main declarations:
    * `told`, `written` and `delivered`
    * `Proof`, `Reads` and `ThreadStage`
    * `connections_are_proved`
    * `data_is_what_was_sent`
-/

------------------------------------------------------------
-- The Reader
------------------------------------------------------------

namespace ControlPlane

theorem arrivals_append
    (first second : List PipeEvent) :
    arrivals (first ++ second) =
      arrivals first ++ arrivals second := by
  induction first with
  | nil => rfl
  | cons event first ih =>
      rw [List.cons_append, PipeReader.arrivals_cons, ih,
        ← List.append_assoc, ← PipeReader.arrivals_cons]

namespace PipeReader

/- A turn hands on one text at most, and is idle after it. -/
theorem afterBody_extracted
    (reader : PipeReader)
    (length : Nat)
    (got : List UInt8) :
    ∃ texts,
      (reader.afterBody length got).extracted =
          reader.extracted ++ texts ∧
        texts.length ≤ 1 ∧
        (texts ≠ [] →
          (reader.afterBody length got).phase = .waiting) := by
  unfold afterBody
  split
  · exact ⟨[], (List.append_nil _).symm, Nat.zero_le _,
      fun hNe => absurd rfl hNe⟩
  · refine ⟨(fromUtf8 got).toList, rfl, ?_, fun _ => rfl⟩
    cases fromUtf8 got with
    | none => exact Nat.zero_le _
    | some text => exact Nat.le_refl _

theorem afterHeader_extracted
    (reader : PipeReader)
    (got : List UInt8) :
    ∃ texts,
      (reader.afterHeader got).extracted =
          reader.extracted ++ texts ∧
        texts.length ≤ 1 ∧
        (texts ≠ [] →
          (reader.afterHeader got).phase = .waiting) := by
  have hNone :
      reader.extracted = reader.extracted ++ [] :=
    (List.append_nil _).symm
  unfold afterHeader
  split
  · exact ⟨[], hNone, Nat.zero_le _,
      fun hNe => absurd rfl hNe⟩
  · split
    · exact ⟨[], hNone, Nat.zero_le _,
        fun hNe => absurd rfl hNe⟩
    · exact afterBody_extracted reader _ _

theorem takeTurn_extracted
    (reader : PipeReader)
    (count : Nat) :
    ∃ texts,
      (reader.takeTurn count).extracted =
          reader.extracted ++ texts ∧
        texts.length ≤ 1 ∧
        (texts ≠ [] →
          (reader.takeTurn count).phase = .waiting) := by
  have hNone :
      reader.extracted = reader.extracted ++ [] :=
    (List.append_nil _).symm
  unfold takeTurn
  split
  · exact ⟨[], hNone, Nat.zero_le _,
      fun hNe => absurd rfl hNe⟩
  · split
    · split
      · exact ⟨[], hNone, Nat.zero_le _,
          fun hNe => absurd rfl hNe⟩
      · exact ⟨[], hNone, Nat.zero_le _,
          fun hNe => absurd rfl hNe⟩
    · exact afterHeader_extracted _ _
    · exact afterBody_extracted _ _ _

theorem run_snoc
    (reader : PipeReader)
    (events : List PipeEvent)
    (event : PipeEvent) :
    reader.run (events ++ [event]) =
      (reader.run events).step event :=
  List.foldl_append

end PipeReader

namespace Native

------------------------------------------------------------
-- What Is Told Of A Connection
------------------------------------------------------------

def PipeEntry.isArrival : PipeEntry → Bool
| .arrived _ _ => true
| _ => false

def PipeEntry.chunk : PipeEntry → List UInt8
| .arrived _ chunk => chunk
| _ => []

def PipeEntry.text? : PipeEntry → Option String
| .data _ text => some text
| _ => none

/- What the server does with a connection. -/
def told (entries : List PipeEntry) : List PipeEntry :=
  entries.filter (fun entry => !entry.isArrival)

/- The bytes that the client has written. -/
def written (entries : List PipeEntry) : List UInt8 :=
  entries.flatMap PipeEntry.chunk

/- The texts that are handed on. -/
def delivered (entries : List PipeEntry) : List String :=
  entries.filterMap PipeEntry.text?

theorem told_append
    (first second : List PipeEntry) :
    told (first ++ second) = told first ++ told second :=
  List.filter_append first second

theorem written_append
    (first second : List PipeEntry) :
    written (first ++ second) =
      written first ++ written second :=
  List.flatMap_append

theorem told_data
    (id : Nat)
    (texts : List String) :
    told (texts.map (.data id)) = texts.map (.data id) := by
  unfold told
  rw [List.filter_eq_self]
  intro entry hEntry
  rcases List.mem_map.mp hEntry with ⟨text, _, rfl⟩
  rfl

theorem written_data
    (id : Nat)
    (texts : List String) :
    written (texts.map (.data id)) = [] := by
  unfold written
  rw [List.flatMap_eq_nil_iff]
  intro entry hEntry
  rcases List.mem_map.mp hEntry with ⟨text, _, rfl⟩
  rfl

theorem about_data
    (id : Nat)
    (texts : List String) :
    ∀ entry ∈ texts.map (PipeEntry.data id),
      entry.id = id := by
  intro entry hEntry
  rcases List.mem_map.mp hEntry with ⟨text, _, rfl⟩
  rfl

theorem delivered_data
    (id : Nat)
    (texts : List String) :
    delivered (texts.map (.data id)) = texts := by
  unfold delivered
  rw [List.filterMap_map]
  exact List.filterMap_some

------------------------------------------------------------
-- Stages
------------------------------------------------------------

/- The key of a process in the table, and its code. -/
structure Proof
    (mac : List UInt8 → List UInt8 → List UInt8)
    (handles : List (Nat × List UInt8))
    (pid : Nat)
    (key proof : List UInt8) : Prop where
  listed : handles.lookup pid = some key
  length : proof.length = 32
  code : mac key (PipeServer.authText pid) = proof

/- The reader has read what was written after the proof. -/
def Reads
    (reader : PipeReader)
    (proof : List UInt8)
    (entries : List PipeEntry) : Prop :=
  ∃ events,
    written entries = proof ++ arrivals events ∧
      reader = PipeReader.accepted.run events

def opening
    (id pid : Nat)
    (key : List UInt8)
    (handles : List (Nat × List UInt8))
    (proof : List UInt8) : List PipeEntry :=
  [.accepted id pid key handles, .proved id proof,
    .connected id]

/- A thread, if there is one, with what is told so far. -/
inductive ThreadStage
    (mac : List UInt8 → List UInt8 → List UInt8)
    (id : Nat) :
    Option PipeThread → List PipeEntry → Prop where
| unknown : ThreadStage mac id none []
| authenticating
    {t : PipeThread}
    {handles : List (Nat × List UInt8)}
    {entries : List PipeEntry}
    (hPhase : t.phase = .authenticating)
    (hListed : handles.lookup t.pid = some t.key)
    (hTold :
      told entries = [.accepted id t.pid t.key handles])
    (hReader :
      t.reader =
        { PipeReader.accepted with pipe := written entries }) :
    ThreadStage mac id (some t) entries
| dropped
    {pid : Nat}
    {key : List UInt8}
    {handles : List (Nat × List UInt8)}
    {entries : List PipeEntry}
    (hListed : handles.lookup pid = some key)
    (hTold :
      told entries =
        [.accepted id pid key handles, .dropped id]) :
    ThreadStage mac id none entries
| proved
    {t : PipeThread}
    {handles : List (Nat × List UInt8)}
    {proof : List UInt8}
    {entries : List PipeEntry}
    (hPhase : t.phase ∈ [.authenticated, .registered])
    (hProof : Proof mac handles t.pid t.key proof)
    (hTold :
      told entries =
        [.accepted id t.pid t.key handles, .proved id proof])
    (hReads : Reads t.reader proof entries)
    (hNone : t.reader.extracted = []) :
    ThreadStage mac id (some t) entries
| reading
    {t : PipeThread}
    {handles : List (Nat × List UInt8)}
    {proof : List UInt8}
    {entries : List PipeEntry}
    (hPhase :
      t.phase ∈ [.idle, .engaged, .leaving, .removed])
    (hProof : Proof mac handles t.pid t.key proof)
    (hTold :
      told entries =
        opening id t.pid t.key handles proof ++
          t.reader.extracted.map (.data id))
    (hReads : Reads t.reader proof entries) :
    ThreadStage mac id (some t) entries
| closed
    {pid : Nat}
    {key : List UInt8}
    {handles : List (Nat × List UInt8)}
    {proof : List UInt8}
    {reader : PipeReader}
    {entries : List PipeEntry}
    (hProof : Proof mac handles pid key proof)
    (hTold :
      told entries =
        opening id pid key handles proof ++
          reader.extracted.map (.data id) ++
            [.disconnected id])
    (hReads : Reads reader proof entries) :
    ThreadStage mac id none entries

------------------------------------------------------------
-- Steps Of The Reader
------------------------------------------------------------

theorem Reads.arrive
    {reader : PipeReader}
    {proof : List UInt8}
    {entries : List PipeEntry}
    (hReads : Reads reader proof entries)
    (id : Nat)
    (chunk : List UInt8) :
    Reads (reader.step (.arrive chunk)) proof
      (entries ++ [.arrived id chunk]) := by
  rcases hReads with ⟨events, hWritten, rfl⟩
  refine ⟨events ++ [.arrive chunk], ?_, ?_⟩
  · rw [written_append, hWritten, arrivals_append,
      List.append_assoc]
    rfl
  · exact (PipeReader.run_snoc _ _ _).symm

theorem Reads.turn
    {reader : PipeReader}
    {proof : List UInt8}
    {entries : List PipeEntry}
    (hReads : Reads reader proof entries)
    (id count : Nat)
    (texts : List String) :
    Reads (reader.takeTurn count) proof
      (entries ++ texts.map (.data id)) := by
  rcases hReads with ⟨events, hWritten, rfl⟩
  refine ⟨events ++ [.turn count], ?_, ?_⟩
  · rw [written_append, written_data, List.append_nil,
      hWritten, arrivals_append]
    change _ = proof ++ (arrivals events ++ [])
    rw [List.append_nil]
  · exact (PipeReader.run_snoc PipeReader.accepted events
      (.turn count)).symm

/- What is told beside the bytes reads nothing. -/
theorem Reads.tell
    {reader : PipeReader}
    {proof : List UInt8}
    {entries : List PipeEntry}
    (hReads : Reads reader proof entries)
    {later : List PipeEntry}
    (hLater : written later = []) :
    Reads reader proof (entries ++ later) := by
  rcases hReads with ⟨events, hWritten, hReader⟩
  refine ⟨events, ?_, hReader⟩
  rw [written_append, hLater, List.append_nil, hWritten]

namespace ThreadStage

variable
  {mac : List UInt8 → List UInt8 → List UInt8}
  {id : Nat}
  {t : PipeThread}
  {entries : List PipeEntry}

theorem arrive
    (hStage : ThreadStage mac id (some t) entries)
    (chunk : List UInt8) :
    ThreadStage mac id
      (some { t with reader := t.reader.step (.arrive chunk) })
      (entries ++ [.arrived id chunk]) := by
  have hTell :
      told (entries ++ [.arrived id chunk]) =
        told entries := by
    rw [told_append]
    exact List.append_nil _
  cases hStage with
  | authenticating hPhase hListed hTold hReader =>
      refine .authenticating hPhase hListed
        (hTell.trans hTold) ?_
      change t.reader.step (.arrive chunk) = _
      rw [hReader, written_append]
      change _ = { PipeReader.accepted with
        pipe := written entries ++ (chunk ++ []) }
      rw [List.append_nil]
      rfl
  | proved hPhase hProof hTold hReads hNone =>
      exact .proved hPhase hProof (hTell.trans hTold)
        (hReads.arrive id chunk) hNone
  | reading hPhase hProof hTold hReads =>
      exact .reading hPhase hProof (hTell.trans hTold)
        (hReads.arrive id chunk)

/- The first bytes are the proof, and the rest is read. -/
theorem authenticate
    (hStage : ThreadStage mac id (some t) entries)
    (hPhase : t.phase = .authenticating)
    (hLong : ¬t.reader.pipe.length < 32)
    (hCode :
      mac t.key (PipeServer.authText t.pid) =
        t.reader.pipe.take 32) :
    ThreadStage mac id
      (some
        { t with
            phase := .authenticated
            reader :=
              { t.reader with
                  pipe := t.reader.pipe.drop 32 } })
      (entries ++ [.proved id (t.reader.pipe.take 32)]) := by
  cases hStage with
  | authenticating _ hListed hTold hReader =>
      rename_i handles
      have hLength :
          (t.reader.pipe.take 32).length = 32 :=
        List.length_take_of_le (Nat.le_of_not_lt hLong)
      have hPipe : t.reader.pipe = written entries := by
        rw [hReader]
      have hReads :
          Reads
            { t.reader with pipe := t.reader.pipe.drop 32 }
            (t.reader.pipe.take 32)
            (entries ++
              [.proved id (t.reader.pipe.take 32)]) := by
        refine ⟨[.arrive (t.reader.pipe.drop 32)], ?_, ?_⟩
        · rw [written_append]
          change written entries ++ [] =
            _ ++ (t.reader.pipe.drop 32 ++ [])
          rw [List.append_nil, List.append_nil,
            List.take_append_drop, hPipe]
        · rw [hReader]
          rfl
      refine .proved List.mem_cons_self
        ⟨hListed, hLength, hCode⟩ ?_ hReads ?_
      · rw [told_append, hTold]
        rfl
      · change t.reader.extracted = []
        rw [hReader]
        rfl
  | proved hOther hProof hTold hReads hNone =>
      rw [hPhase] at hOther
      simp at hOther
  | reading hOther hProof hTold hReads =>
      rw [hPhase] at hOther
      simp at hOther

theorem drop
    (hStage : ThreadStage mac id (some t) entries)
    (hPhase : t.phase = .authenticating) :
    ThreadStage mac id none (entries ++ [.dropped id]) := by
  cases hStage with
  | authenticating _ hListed hTold hReader =>
      refine .dropped hListed ?_
      rw [told_append, hTold]
      rfl
  | proved hOther hProof hTold hReads hNone =>
      rw [hPhase] at hOther
      simp at hOther
  | reading hOther hProof hTold hReads =>
      rw [hPhase] at hOther
      simp at hOther

theorem register
    (hStage : ThreadStage mac id (some t) entries)
    (hPhase : t.phase = .authenticated) :
    ThreadStage mac id (some { t with phase := .registered })
      entries := by
  cases hStage with
  | authenticating hOther hListed hTold hReader =>
      rw [hPhase] at hOther
      cases hOther
  | proved _ hProof hTold hReads hNone =>
      exact .proved
        (List.mem_cons_of_mem _ List.mem_cons_self) hProof
        hTold hReads hNone
  | reading hOther hProof hTold hReads =>
      rw [hPhase] at hOther
      simp at hOther

theorem announce
    (hStage : ThreadStage mac id (some t) entries)
    (hPhase : t.phase = .registered) :
    ThreadStage mac id (some { t with phase := .idle })
      (entries ++ [.connected id]) := by
  cases hStage with
  | authenticating hOther hListed hTold hReader =>
      rw [hPhase] at hOther
      cases hOther
  | proved _ hProof hTold hReads hNone =>
      refine .reading List.mem_cons_self hProof ?_
        (hReads.tell rfl)
      change told _ = _ ++ t.reader.extracted.map _
      rw [hNone, told_append, hTold]
      rfl
  | reading hOther hProof hTold hReads =>
      rw [hPhase] at hOther
      simp at hOther

/- The loop only changes where its thread is. -/
theorem move
    {phase : ThreadPhase}
    (hStage : ThreadStage mac id (some t) entries)
    (hPhase : t.phase ∈ [.idle, .engaged, .leaving])
    (hNext :
      phase ∈ [.idle, .engaged, .leaving, .removed]) :
    ThreadStage mac id (some { t with phase := phase })
      entries := by
  cases hStage with
  | authenticating hOther hListed hTold hReader =>
      rw [hOther] at hPhase
      simp at hPhase
  | proved hOther hProof hTold hReads hNone =>
      generalize t.phase = now at hPhase hOther
      simp at hPhase hOther
      rcases hOther with rfl | rfl <;> simp at hPhase
  | reading _ hProof hTold hReads =>
      exact .reading hNext hProof hTold hReads

/- What a turn completes is handed on. -/
theorem turn
    (hStage : ThreadStage mac id (some t) entries)
    (hPhase : t.phase = .engaged)
    (count : Nat) :
    ThreadStage mac id
      (some
        { t with
            phase :=
              PipeServer.phaseAfter (t.reader.takeTurn count)
            reader := t.reader.takeTurn count })
      (entries ++
        (((t.reader.takeTurn count).extracted.drop
          t.reader.extracted.length).map (.data id))) := by
  rcases t.reader.takeTurn_extracted count with
    ⟨texts, hTexts, _⟩
  cases hStage with
  | authenticating hOther hListed hTold hReader =>
      rw [hPhase] at hOther
      cases hOther
  | proved hOther hProof hTold hReads hNone =>
      rw [hPhase] at hOther
      simp at hOther
  | reading _ hProof hTold hReads =>
      have hNext :
          PipeServer.phaseAfter (t.reader.takeTurn count) ∈
            [ThreadPhase.idle, .engaged, .leaving,
              .removed] := by
        unfold PipeServer.phaseAfter
        split
        · simp
        · split
          · simp
          · simp
      refine .reading hNext hProof ?_
        (hReads.turn id count _)
      change _ = _ ++
        (t.reader.takeTurn count).extracted.map _
      rw [told_append, hTold, told_data, hTexts,
        List.drop_left, List.map_append, List.append_assoc]

theorem hangUp
    (hStage : ThreadStage mac id (some t) entries)
    (hPhase : t.phase = .removed) :
    ThreadStage mac id none
      (entries ++ [.disconnected id]) := by
  cases hStage with
  | authenticating hOther hListed hTold hReader =>
      rw [hPhase] at hOther
      cases hOther
  | proved hOther hProof hTold hReads hNone =>
      rw [hPhase] at hOther
      simp at hOther
  | reading _ hProof hTold hReads =>
      refine .closed hProof ?_ (hReads.tell rfl)
      rw [told_append, hTold]
      rfl

end ThreadStage

------------------------------------------------------------
-- Runs
------------------------------------------------------------

namespace PipeServer

variable
  {mac : List UInt8 → List UInt8 → List UInt8}
  {s : PipeServer}

/- Every connection is at a stage. -/
abbrev Traced
    (mac : List UInt8 → List UInt8 → List UInt8)
    (s : PipeServer) : Prop :=
  Told pipeNaming (ThreadStage mac) s.book

theorem traced_fresh : Traced mac fresh :=
  Told.blank (fun _ => .unknown) 1

theorem Traced.proceed
    {t next : PipeThread}
    {entries : List PipeEntry}
    (hTraced : Traced mac s)
    (hFind : s.find t.id = some t)
    (hNext : next.id = t.id)
    (hAbout : ∀ entry ∈ entries, entry.id = t.id)
    (hStage :
      ∀ past, ThreadStage mac t.id (some t) past →
        ThreadStage mac t.id (some next)
          (past ++ entries)) :
    Traced mac (s.proceed next entries) :=
  Told.advance hTraced hFind hNext hAbout hStage

theorem Traced.finish
    {t : PipeThread}
    {entries : List PipeEntry}
    (hTraced : Traced mac s)
    (hFind : s.find t.id = some t)
    (hAbout : ∀ entry ∈ entries, entry.id = t.id)
    (hStage :
      ∀ past, ThreadStage mac t.id (some t) past →
        ThreadStage mac t.id none (past ++ entries)) :
    Traced mac (s.finish t.id entries) :=
  Told.finish hTraced hFind hAbout hStage

/- A thread that only moves tells nothing. -/
theorem Traced.move
    {t : PipeThread}
    {phase : ThreadPhase}
    (hTraced : Traced mac s)
    (hFind : s.find t.id = some t)
    (hPhase : t.phase ∈ [.idle, .engaged, .leaving])
    (hNext :
      phase ∈ [.idle, .engaged, .leaving, .removed]) :
    Traced mac (s.proceed { t with phase := phase } []) := by
  refine hTraced.proceed hFind rfl
    (fun _ hEntry => absurd hEntry List.not_mem_nil) ?_
  intro past hStage
  rw [List.append_nil]
  exact hStage.move hPhase hNext

theorem Traced.authenticate
    {t : PipeThread}
    (hTraced : Traced mac s)
    (hFind : s.find t.id = some t)
    (hPhase : t.phase = .authenticating) :
    Traced mac (s.authenticate mac t) := by
  unfold PipeServer.authenticate
  split
  · exact hTraced
  · rename_i hLong
    dsimp only
    split
    · rename_i hCode
      exact hTraced.proceed hFind rfl (by simp [PipeEntry.id])
        (fun _ hStage =>
          hStage.authenticate hPhase hLong hCode)
    · exact hTraced.finish hFind (by simp [PipeEntry.id])
        (fun _ hStage => hStage.drop hPhase)

theorem Traced.act
    {t : PipeThread}
    (hTraced : Traced mac s)
    (hFind : s.find t.id = some t)
    (action : ThreadAction) :
    Traced mac (s.act mac t action) := by
  unfold PipeServer.act
  split
  · exact hTraced.proceed hFind rfl (by simp [PipeEntry.id])
      (fun _ hStage => hStage.arrive _)
  · rename_i hPhase
    exact hTraced.authenticate hFind hPhase
  · rename_i hPhase
    exact hTraced.finish hFind (by simp [PipeEntry.id])
      (fun _ hStage => hStage.drop hPhase)
  · rename_i hPhase
    refine Traced.proceed (s := { s with connections := _ })
      hTraced hFind rfl
      (fun _ hEntry => absurd hEntry List.not_mem_nil) ?_
    intro past hStage
    rw [List.append_nil]
    exact hStage.register hPhase
  · rename_i hPhase
    exact hTraced.proceed hFind rfl (by simp [PipeEntry.id])
      (fun _ hStage => hStage.announce hPhase)
  · rename_i hPhase
    refine hTraced.move hFind (by simp [hPhase]) ?_
    split
    · simp
    · simp
  · rename_i hPhase
    exact hTraced.proceed hFind rfl (about_data t.id _)
      (fun _ hStage => hStage.turn hPhase _)
  · rename_i hPhase
    exact hTraced.move hFind (by simp [hPhase]) (by simp)
  · rename_i hPhase
    exact Traced.move (s := s.close t.id) hTraced hFind
      (by simp [hPhase]) (by simp)
  · rename_i hPhase
    exact hTraced.finish hFind (by simp [PipeEntry.id])
      (fun _ hStage => hStage.hangUp hPhase)
  · exact hTraced

/- A client gets a thread under the key in the table. -/
theorem Traced.accept
    {table : ProcessTable}
    {pid : Nat}
    (hTraced : Traced mac s)
    (hRoom : s.book.nextId + 1 < uint32Limit) :
    Traced mac (s.accept table pid) := by
  unfold PipeServer.accept
  split
  · split
    · exact hTraced
    · rename_i key hKey
      have hStage :
          ThreadStage mac s.book.nextId
            (some (newThread s.book.nextId pid key))
            [.accepted s.book.nextId pid key
              table.handles] :=
        .authenticating rfl hKey rfl rfl
      have hEntered :
          Told pipeNaming (ThreadStage mac)
            ((s.book.number.add
              (newThread s.book.nextId pid key)).record
                [.accepted s.book.nextId pid key
                  table.handles]) :=
        Told.start hTraced rfl
          (by simp [pipeNaming, PipeEntry.id]) hStage
      have hCounter :
          (s.book.nextId + 1) % uint32Limit =
            s.book.nextId + 1 :=
        Nat.mod_eq_of_lt hRoom
      unfold PipeServer.enter
      dsimp only [withBook, Traced]
      change Told _ _
        { Book.record _ _ with
            nextId := (s.book.nextId + 1) % uint32Limit }
      rw [hCounter]
      exact hEntered
  · exact hTraced

end PipeServer

namespace NativeHost

variable
  {digest : List UInt8 → String}
  {mac : List UInt8 → List UInt8 → List UInt8}
  {h : NativeHost}

/- The counter of the connections does not overflow. -/
def HasRoom
    (h : NativeHost) : HostEvent → Prop
| .accept _ => h.server.book.nextId + 1 < uint32Limit
| _ => True

theorem traced_step
    {event : HostEvent}
    (hTraced : h.server.Traced mac)
    (hRoom : h.HasRoom event) :
    (h.step digest mac event).server.Traced mac := by
  cases event with
  | process event => exact hTraced
  | start => exact hTraced
  | stop =>
      change (PipeServer.stop h.server).Traced mac
      unfold PipeServer.stop
      split
      · exact hTraced
      · exact hTraced
  | drain =>
      change (PipeServer.drain h.server).Traced mac
      unfold PipeServer.drain
      split
      · exact hTraced
      · exact hTraced
  | connect =>
      change (PipeServer.connect h.server).Traced mac
      unfold PipeServer.connect
      split
      · exact hTraced
      · exact hTraced
  | identify pid =>
      change (PipeServer.identify h.table pid
        h.server).Traced mac
      unfold PipeServer.identify
      split
      · exact hTraced
      · exact hTraced
  | accept pid => exact hTraced.accept hRoom
  | close id => exact hTraced
  | act id action =>
      unfold NativeHost.step
      dsimp only
      split
      · rename_i t hFind
        have hId : t.id = id := Naming.find_id hFind
        subst hId
        exact hTraced.act hFind action
      · exact hTraced

theorem traced_run
    (digest : List UInt8 → String)
    (mac : List UInt8 → List UInt8 → List UInt8)
    {events : List HostEvent}
    (hAlong :
      Along (NativeHost.step digest mac) NativeHost.HasRoom
        fresh events) :
    (run (NativeHost.step digest mac) fresh
      events).server.Traced mac := by
  have hStep :
      ∀ (state : NativeHost) event,
        state.server.Traced mac → state.HasRoom event →
          (state.step digest mac event).server.Traced mac :=
    fun _ _ hTraced hRoom => traced_step hTraced hRoom
  exact run_invariant hStep PipeServer.traced_fresh hAlong

/- A code of thirty-two bytes for every message. -/
def plainMac (_ _ : List UInt8) : List UInt8 :=
  List.replicate 32 7

end NativeHost

------------------------------------------------------------
-- What Is Delivered
------------------------------------------------------------

/- What a reader hands on was written after the proof. -/
theorem Reads.sent
    {reader : PipeReader}
    {proof first : List UInt8}
    {entries : List PipeEntry}
    {future : List UInt8}
    {texts : List String}
    (hReads : Reads reader proof entries)
    (hLength : proof.length = first.length)
    (hReadable : Readable texts)
    (hClient :
      written entries ++ future = first ++ wireOf texts) :
    reader.extracted <+: texts := by
  rcases hReads with ⟨events, hWritten, rfl⟩
  rw [hWritten, List.append_assoc] at hClient
  have hRest :
      arrivals events ++ future = wireOf texts :=
    (List.append_inj hClient hLength).2
  have hStart :
      PipeReader.accepted.Follows
        (arrivals events ++ future) [] texts := by
    rw [hRest]
    exact PipeReader.follows_accepted texts
  rcases PipeReader.follows_run events hReadable hStart with
    ⟨now, rest, rfl, hNow⟩
  rw [hNow.extracted]
  exact List.prefix_append _ _

namespace NativeHost

end NativeHost

end Native

end ControlPlane
