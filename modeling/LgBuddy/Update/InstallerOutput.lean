import LgBuddy.Text.Utf8

/-!
# LgBuddy — the output of an installer

`read_bounded` of `update_install.rs`: the output of a subprocess, of which only a beginning is
kept, and whether one of its lines says that the installer has begun to change the system.

* `readByte`, `readChunk`, `readBounded` — the automaton, byte by byte and read by read;
* `Marked` — the lines that should count;
* `readByte_lines` — what the automaton knows of the lines, of which it keeps only a beginning;
* `marker_detection` — when its answer is the right one.
-/

namespace LgBuddy.InstallerOutput

open Str

/-! ## The automaton -/

/-- `INSTALL_MUTATION_STATUS`. -/
def installMutationStatus : List UInt8 :=
  utf8Bytes "LG_BUDDY_INSTALL_STATUS=mutation_started".toList

/-- `MAX_CANDIDATE_PREFLIGHT_OUTPUT_BYTES`. -/
def maxOutputBytes : Nat := 64 * 1024

def lineFeed : UInt8 := 10

def carriageReturn : UInt8 := 13

/-- The comparison of a complete line. -/
def isMutationStatus (line : List UInt8) : Bool :=
  line == installMutationStatus
    || (line.getLast? == some carriageReturn && line.dropLast == installMutationStatus)

structure Reading where
  bytes : List UInt8 := []
  truncated : Bool := false
  line : List UInt8 := []
  mutationStarted : Bool := false

/-- The line buffer and the flag; the buffer takes one byte more than the marker has. -/
def readByte (state : List UInt8 × Bool) (byte : UInt8) : List UInt8 × Bool :=
  let (line, mutationStarted) := state
  if byte = lineFeed then ([], mutationStarted || isMutationStatus line)
  else if line.length ≤ installMutationStatus.length then (line ++ [byte], mutationStarted)
  else (line, mutationStarted)

def readChunk (reading : Reading) (chunk : List UInt8) : Reading :=
  let (line, mutationStarted) := chunk.foldl readByte (reading.line, reading.mutationStarted)
  let remaining := maxOutputBytes - reading.bytes.length
  if remaining > 0 then
    let keep := min chunk.length remaining
    ⟨reading.bytes ++ chunk.take keep, reading.truncated || decide (keep < chunk.length), line,
      mutationStarted⟩
  else ⟨reading.bytes, true, line, mutationStarted⟩

/-- `read_bounded`, by what the reads return; an empty one is the end. -/
def readBounded (reading : Reading) :
    List (Except String (List UInt8)) → Except String (List UInt8 × Bool × Bool)
  | [] => .ok (reading.bytes, reading.truncated,
      reading.mutationStarted || isMutationStatus reading.line)
  | .error error :: _ => .error error
  | .ok chunk :: rest =>
    if chunk = [] then
      .ok (reading.bytes, reading.truncated,
        reading.mutationStarted || isMutationStatus reading.line)
    else readBounded (readChunk reading chunk) rest

/-! ## Lines -/

/-- The bytes up to the first read that returns none. -/
def stream (reads : List (List UInt8)) : List UInt8 := (reads.takeWhile (· != [])).flatten

/-- A line that counts: the marker, or the marker and one carriage return. -/
def Marked (line : List UInt8) : Prop :=
  line = installMutationStatus ∨ line = installMutationStatus ++ [carriageReturn]

/-- A line that only begins as such a line does. -/
def Overlong (line : List UInt8) : Prop :=
  ∃ byte rest, line = installMutationStatus ++ carriageReturn :: byte :: rest

/-- What the buffer keeps of a line. -/
def buffered (line : List UInt8) : List UInt8 := line.take (installMutationStatus.length + 1)

theorem isMutationStatus_iff {line : List UInt8} : isMutationStatus line = true ↔ Marked line := by
  unfold isMutationStatus Marked
  rw [Bool.or_eq_true, Bool.and_eq_true, beq_iff_eq, beq_iff_eq, beq_iff_eq]
  apply or_congr Iff.rfl
  constructor
  · rintro ⟨hlast, hfront⟩
    obtain ⟨front, rfl⟩ := List.getLast?_eq_some_iff.1 hlast
    rw [List.dropLast_concat] at hfront
    rw [hfront]
  · rintro rfl
    exact ⟨by simp, by simp⟩

/-- The buffer of a line is taken for a marker if the line is one, or is longer than one. -/
theorem buffered_iff {line : List UInt8} :
    isMutationStatus (buffered line) = true ↔ Marked line ∨ Overlong line := by
  rw [isMutationStatus_iff]
  unfold Marked Overlong buffered
  constructor
  · rintro (hmarker | hreturn)
    · left
      left
      -- a longer line would fill the buffer with one byte more
      have hlength := congrArg List.length hmarker
      rw [List.length_take] at hlength
      rw [List.take_of_length_le (by omega)] at hmarker
      exact hmarker
    · have hline := List.take_append_drop (installMutationStatus.length + 1) line
      rw [hreturn] at hline
      cases hrest : line.drop (installMutationStatus.length + 1) with
      | nil =>
        rw [hrest, List.append_nil] at hline
        exact .inl (.inr hline.symm)
      | cons byte rest =>
        rw [hrest, List.append_assoc] at hline
        exact .inr ⟨byte, rest, hline.symm⟩
  · rintro ((rfl | rfl) | ⟨byte, rest, rfl⟩)
    · left
      exact List.take_of_length_le (by omega)
    · right
      exact List.take_of_length_le (by simp)
    · right
      have hline : installMutationStatus ++ carriageReturn :: byte :: rest
          = (installMutationStatus ++ [carriageReturn]) ++ byte :: rest := by simp
      rw [hline, List.take_left' (by simp)]

/-! ## The bytes of a stream -/

/-- One more byte in the buffer. -/
theorem buffered_concat {line : List UInt8} {byte : UInt8} (flag : Bool) (hbyte : byte ≠ lineFeed) :
    readByte (buffered line, flag) byte = (buffered (line ++ [byte]), flag) := by
  have hlength : (buffered line).length = min (installMutationStatus.length + 1) line.length :=
    List.length_take
  simp only [readByte, if_neg hbyte]
  split
  · rename_i hroom
    have hshort : line.length ≤ installMutationStatus.length := by omega
    rw [buffered, buffered, List.take_of_length_le (by omega),
      List.take_of_length_le (by simpa using hshort)]
  · rename_i hfull
    have hlong : installMutationStatus.length + 1 ≤ line.length := by omega
    rw [buffered, buffered, List.take_append_of_le_length hlong]

/-- **The lines are compared by what the buffer keeps of them**, however the stream continues. -/
theorem readByte_lines (bytes line : List UInt8) (flag : Bool) :
    let (rest, found) := bytes.foldl readByte (buffered line, flag)
    (found || isMutationStatus rest)
      = (flag || (List.splitOnPPrepend (· == lineFeed) bytes line.reverse).any
          fun line => isMutationStatus (buffered line)) := by
  induction bytes generalizing line flag with
  | nil => simp
  | cons byte bytes ih =>
    by_cases hbyte : byte = lineFeed
    · have hnext := ih [] (flag || isMutationStatus (buffered line))
      rw [List.splitOnPPrepend_cons_pos (by simpa using hbyte), List.foldl_cons]
      simpa [readByte, hbyte, buffered, Bool.or_assoc] using hnext
    · have hnext := ih (line ++ [byte]) flag
      rw [List.splitOnPPrepend_cons_neg (by simpa using hbyte), List.foldl_cons,
        buffered_concat flag hbyte]
      simpa using hnext

/-! ## The reads of a stream -/

/-- What has been read so far. -/
structure Reading.Of (seen : List UInt8) (reading : Reading) : Prop where
  bytes : reading.bytes = seen.take maxOutputBytes
  truncated : reading.truncated = decide (maxOutputBytes < seen.length)
  automaton : (reading.line, reading.mutationStarted) = seen.foldl readByte ([], false)

theorem Reading.Of.chunk {seen chunk : List UInt8} {reading : Reading} (h : reading.Of seen)
    (hchunk : chunk ≠ []) : (readChunk reading chunk).Of (seen ++ chunk) := by
  obtain ⟨hbytes, htruncated, hautomaton⟩ := h
  have hpos := List.length_pos_iff.2 hchunk
  have hkept : reading.bytes.length = min maxOutputBytes seen.length := by
    rw [hbytes, List.length_take]
  have hline : (chunk.foldl readByte (reading.line, reading.mutationStarted))
      = (seen ++ chunk).foldl readByte ([], false) := by
    rw [hautomaton, List.foldl_append]
  unfold readChunk
  rw [hline]
  dsimp only
  split
  · rename_i hroom
    have hseen : seen.length ≤ maxOutputBytes := by omega
    have hall : reading.bytes = seen := by rw [hbytes, List.take_of_length_le hseen]
    refine ⟨?_, ?_, rfl⟩
    · rw [List.take_append, List.take_of_length_le hseen, hall]
      simp only [List.append_cancel_left_eq]
      rw [Nat.min_comm, ← List.take_eq_take_min]
    · have hnot : ¬ maxOutputBytes < seen.length := by omega
      dsimp only
      rw [htruncated, hall, decide_eq_false hnot, Bool.false_or, List.length_append]
      apply decide_eq_decide.2
      omega
  · rename_i hfull
    have hseen : maxOutputBytes ≤ seen.length := by omega
    refine ⟨?_, ?_, rfl⟩
    · rw [hbytes, List.take_append_of_le_length hseen]
    · rw [List.length_append]
      exact (decide_eq_true (by omega)).symm

/-- **The answer depends on the stream only**, not on how it is cut into reads. -/
theorem readBounded_stream {seen : List UInt8} {reading : Reading} (h : reading.Of seen)
    (reads : List (List UInt8)) :
    readBounded reading (reads.map .ok)
      = .ok ((seen ++ stream reads).take maxOutputBytes,
          decide (maxOutputBytes < (seen ++ stream reads).length),
          (List.splitOn lineFeed (seen ++ stream reads)).any
            fun line => isMutationStatus (buffered line)) := by
  have hend : ∀ {seen : List UInt8} {reading : Reading}, reading.Of seen →
      (reading.mutationStarted || isMutationStatus reading.line)
        = (List.splitOn lineFeed seen).any fun line => isMutationStatus (buffered line) := by
    intro seen reading h
    have hlines := readByte_lines seen [] false
    rw [show buffered [] = [] from rfl, ← h.automaton] at hlines
    simpa [List.splitOn] using hlines
  induction reads generalizing seen reading with
  | nil =>
    rw [show stream [] = [] from rfl, List.append_nil, ← h.bytes, ← h.truncated, ← hend h]
    rfl
  | cons chunk reads ih =>
    by_cases hchunk : chunk = []
    · subst hchunk
      rw [show stream ([] :: reads) = [] from rfl, List.append_nil, ← h.bytes, ← h.truncated,
        ← hend h]
      rfl
    · have hstream : stream (chunk :: reads) = chunk ++ stream reads := by
        simp [stream, hchunk]
      rw [List.map_cons, readBounded, if_neg hchunk, ih (h.chunk hchunk), hstream,
        List.append_assoc]

/-! ## When the answer is right -/

/-- The answer says what is kept of the stream, whether that is all, and whether a line counts. -/
def Exact (reads : List (List UInt8)) : Prop :=
  ∃ mutationStarted,
    readBounded {} (reads.map .ok)
      = .ok ((stream reads).take maxOutputBytes,
          decide (maxOutputBytes < (stream reads).length), mutationStarted) ∧
    (mutationStarted = true ↔ ∃ line ∈ List.splitOn lineFeed (stream reads), Marked line)

/-- **Detection is exact unless a longer line is all that there is.** The line buffer is too short
by one byte to tell the marker and a carriage return from a line that continues. -/
theorem marker_detection (reads : List (List UInt8)) :
    Exact reads ↔
      ((∃ line ∈ List.splitOn lineFeed (stream reads), Overlong line) →
        ∃ line ∈ List.splitOn lineFeed (stream reads), Marked line) := by
  have hstart : Reading.Of [] {} := ⟨rfl, rfl, rfl⟩
  have hrun := readBounded_stream hstart reads
  rw [List.nil_append] at hrun
  have hflag : ((List.splitOn lineFeed (stream reads)).any
      fun line => isMutationStatus (buffered line)) = true ↔
        (∃ line ∈ List.splitOn lineFeed (stream reads), Marked line) ∨
          ∃ line ∈ List.splitOn lineFeed (stream reads), Overlong line := by
    rw [List.any_eq_true, ← exists_or]
    apply exists_congr
    intro line
    rw [buffered_iff, ← and_or_left]
  unfold Exact
  rw [hrun]
  constructor
  · rintro ⟨mutationStarted, hanswer, hexact⟩ hoverlong
    obtain rfl := (Prod.mk.inj (Prod.mk.inj (Except.ok.inj hanswer)).2).2
    exact hexact.1 (hflag.2 (.inr hoverlong))
  · intro hlaw
    refine ⟨_, rfl, ?_⟩
    rw [hflag]
    constructor
    · rintro (hmarked | hoverlong)
      · exact hmarked
      · exact hlaw hoverlong
    · exact .inl

/-- A line that continues behind the carriage return. -/
theorem marker_detection_overlong :
    ¬ Exact [installMutationStatus ++ [carriageReturn, 33, lineFeed]] := by
  rw [marker_detection]
  intro hlaw
  have hlines : List.splitOn lineFeed
      (stream [installMutationStatus ++ [carriageReturn, 33, lineFeed]])
        = [installMutationStatus ++ [carriageReturn, 33], []] := by decide +kernel
  rw [hlines] at hlaw
  obtain ⟨line, hline, hmarked⟩ := hlaw ⟨_, .head _, 33, [], rfl⟩
  have hno : ∀ line ∈ [installMutationStatus ++ [carriageReturn, 33], []],
      line ≠ installMutationStatus ∧ line ≠ installMutationStatus ++ [carriageReturn] := by
    decide +kernel
  obtain ⟨hnot, hnot'⟩ := hno line hline
  exact hmarked.elim hnot hnot'

end LgBuddy.InstallerOutput
