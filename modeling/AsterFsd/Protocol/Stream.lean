import AsterFsd.Lib.Lines
import AsterFsd.Protocol.Packet

/-! # Framing of the inbound stream

The transport codec takes frames out of a buffer to which the chunks of a TCP stream are appended. How
the stream is cut into chunks makes no difference: the frames are the lines of the whole stream.
-/

namespace AsterFsd.FsdFrameCodec

/-! ## Decoding -/

def delimiterIndex (source : List UInt8) : Option Nat := source.findIdx? Text.isDelimiter

def discardDelimiters (source : List UInt8) : List UInt8 := source.dropWhile Text.isDelimiter

private theorem discardDelimiters_cons {source rest : List UInt8} {b : UInt8}
    (discarded : discardDelimiters source = b :: rest) : Text.isDelimiter b = false := by
  have first := List.head?_dropWhile_not Text.isDelimiter source
  rw [show source.dropWhile Text.isDelimiter = b :: rest from discarded] at first
  simpa using first

private theorem length_discardDelimiters (source : List UInt8) :
    (discardDelimiters source).length ≤ source.length := List.length_dropWhile_le _ _

private theorem delimiterIndex_undelimited {line : List UInt8}
    (clean : Lines.Undelimited Text.isDelimiter line) : delimiterIndex line = none :=
  List.findIdx?_eq_none_iff.mpr clean

private theorem delimiterIndex_line {line rest : List UInt8} {d : UInt8}
    (clean : Lines.Undelimited Text.isDelimiter line) (ends : Text.isDelimiter d = true) :
    delimiterIndex (line ++ d :: rest) = some line.length := by
  have before : line.findIdx? Text.isDelimiter = none := delimiterIndex_undelimited clean
  simp [delimiterIndex, List.findIdx?_append, before, List.findIdx?_cons, ends]

/-- After the discarding there is an unfinished line, or a line that is not empty. -/
theorem discardDelimiters_cases (buffer : List UInt8) :
    Lines.Undelimited Text.isDelimiter (discardDelimiters buffer) ∨
      ∃ line d after, Lines.Undelimited Text.isDelimiter line ∧ Text.isDelimiter d = true ∧ line ≠ [] ∧
        discardDelimiters buffer = line ++ d :: after := by
  cases Lines.undelimited_or_line Text.isDelimiter (discardDelimiters buffer) with
  | inl clean => exact .inl clean
  | inr found =>
      obtain ⟨line, d, after, clean, ends, source⟩ := found
      refine .inr ⟨line, d, after, clean, ends, ?_, source⟩
      intro empty
      rw [empty, List.nil_append] at source
      rw [discardDelimiters_cons source] at ends
      cases ends

/-- After the discarding, a delimiter leaves at least one byte before it. -/
private theorem shorter_after_line {buffer : List UInt8} {index : Nat}
    (found : delimiterIndex (discardDelimiters buffer) = some index) :
    (discardDelimiters ((discardDelimiters buffer).drop index)).length < buffer.length := by
  have bound := length_discardDelimiters buffer
  have rest := length_discardDelimiters ((discardDelimiters buffer).drop index)
  rw [List.length_drop] at rest
  cases discarded : discardDelimiters buffer with
  | nil =>
      rw [discarded] at found
      cases found
  | cons b source =>
      have positive : index ≠ 0 := by
        intro zero
        rw [discarded, zero, delimiterIndex, List.findIdx?_cons, discardDelimiters_cons discarded] at found
        simp at found
      rw [discarded] at bound rest
      rw [List.length_cons] at bound rest
      omega

/-- Takes one frame out of the buffer, with what stays in the buffer. -/
def decode (maxFrameBytes : Nat) (buffer : List UInt8) :
    Except CodecError (Option (List UInt8)) × List UInt8 :=
  let source := discardDelimiters buffer
  if source.isEmpty then (.ok none, source)
  else
    match _ : delimiterIndex source with
    | some index =>
        if maxFrameBytes < index then
          (.error (.frameTooLong maxFrameBytes), discardDelimiters (source.drop index))
        else
          let frame := source.take index
          let rest := discardDelimiters (source.drop index)
          if frame.isEmpty then decode maxFrameBytes rest else (.ok (some frame), rest)
    | none =>
        if maxFrameBytes < source.length then (.error (.frameTooLong maxFrameBytes), [])
        else (.ok none, source)
termination_by buffer.length
decreasing_by exact shorter_after_line ‹_›

section Rules

variable {maxFrameBytes : Nat} {buffer line rest : List UInt8} {d : UInt8}

theorem decode_undelimited (source : discardDelimiters buffer = line)
    (clean : Lines.Undelimited Text.isDelimiter line) :
    decode maxFrameBytes buffer =
      if maxFrameBytes < line.length then (.error (.frameTooLong maxFrameBytes), [])
      else (.ok none, line) := by
  rw [decode]
  simp only [source]
  cases line with
  | nil => rfl
  | cons b line =>
      rw [if_neg (by simp)]
      split
      · rename_i found
        rw [source, delimiterIndex_undelimited clean] at found
        cases found
      · rfl

theorem decode_line (source : discardDelimiters buffer = line ++ d :: rest) (filled : line ≠ [])
    (clean : Lines.Undelimited Text.isDelimiter line) (ends : Text.isDelimiter d = true) :
    decode maxFrameBytes buffer =
      if maxFrameBytes < line.length then
        (.error (.frameTooLong maxFrameBytes), discardDelimiters (d :: rest))
      else (.ok (some line), discardDelimiters (d :: rest)) := by
  rw [decode]
  simp only [source]
  rw [if_neg (by simp)]
  split
  · rename_i index found
    rw [source] at found
    obtain rfl := Option.some.inj ((delimiterIndex_line clean ends).symm.trans found)
    simp [filled]
  · rename_i found
    rw [source, delimiterIndex_line clean ends] at found
    cases found

end Rules

theorem decode_consumes {maxFrameBytes : Nat} {buffer rest : List UInt8}
    {outcome : Except CodecError (Option (List UInt8))}
    (decoded : decode maxFrameBytes buffer = (outcome, rest)) (found : outcome ≠ .ok none) :
    rest.length < buffer.length := by
  have bound := length_discardDelimiters buffer
  cases discardDelimiters_cases buffer with
  | inl clean =>
      rw [decode_undelimited rfl clean] at decoded
      split at decoded
      · rename_i long
        obtain ⟨-, rfl⟩ := Prod.mk.inj decoded
        exact Nat.lt_of_lt_of_le (Nat.zero_lt_of_lt long) bound
      · exact absurd (Prod.mk.inj decoded).1.symm found
  | inr line =>
      obtain ⟨line, d, after, clean, ends, filled, source⟩ := line
      rw [decode_line source filled clean ends] at decoded
      have same : rest = discardDelimiters (d :: after) := by
        split at decoded <;> exact (Prod.mk.inj decoded).2.symm
      have shorter := length_discardDelimiters (d :: after)
      have positive := List.length_pos_of_ne_nil filled
      rw [source, List.length_append] at bound
      rw [same]
      omega

theorem decode_shorter {maxFrameBytes : Nat} {buffer frame rest : List UInt8}
    (decoded : decode maxFrameBytes buffer = (.ok (some frame), rest)) :
    rest.length < buffer.length := decode_consumes decoded (by simp)

/-- Decodes until the buffer holds no whole frame any more, or a frame is too long. -/
def drain (maxFrameBytes : Nat) (buffer : List UInt8) :
    List (List UInt8) × Except CodecError (List UInt8) :=
  match _ : decode maxFrameBytes buffer with
  | (.error error, _) => ([], .error error)
  | (.ok none, rest) => ([], .ok rest)
  | (.ok (some frame), rest) =>
      let (frames, outcome) := drain maxFrameBytes rest
      (frame :: frames, outcome)
termination_by buffer.length
decreasing_by exact decode_shorter ‹_›

section Rules

variable {maxFrameBytes : Nat} {buffer frame rest : List UInt8}

theorem drain_error {error : CodecError} (decoded : decode maxFrameBytes buffer = (.error error, rest)) :
    drain maxFrameBytes buffer = ([], .error error) := by
  rw [drain]
  split <;> simp_all

theorem drain_none (decoded : decode maxFrameBytes buffer = (.ok none, rest)) :
    drain maxFrameBytes buffer = ([], .ok rest) := by
  rw [drain]
  split <;> simp_all

theorem drain_some (decoded : decode maxFrameBytes buffer = (.ok (some frame), rest)) :
    drain maxFrameBytes buffer =
      (frame :: (drain maxFrameBytes rest).1, (drain maxFrameBytes rest).2) := by
  rw [drain]
  split <;> simp_all

end Rules

/-- Appends the chunks to the buffer one after the other, and takes out the frames after each. -/
def receive (maxFrameBytes : Nat) :
    List UInt8 → List (List UInt8) → List (List UInt8) × Except CodecError (List UInt8)
  | buffer, [] => ([], .ok buffer)
  | buffer, chunk :: chunks =>
      match drain maxFrameBytes (buffer ++ chunk) with
      | (frames, .error error) => (frames, .error error)
      | (frames, .ok rest) =>
          let (more, outcome) := receive maxFrameBytes rest chunks
          (frames ++ more, outcome)

/-! ## The whole stream -/

/-- What the codec should make of a stream that it sees as a whole: the lines of the stream up to the
    first that is too long. -/
def specification (maxFrameBytes : Nat) (stream : List UInt8) :
    List (List UInt8) × Except CodecError (List UInt8) :=
  let reading := Lines.reading Text.isDelimiter maxFrameBytes stream
  (reading.lines,
    match reading.kept with
    | some kept => .ok kept
    | none => .error (.frameTooLong maxFrameBytes))

/-- One buffer is drained as the specification says of its bytes. -/
theorem drain_eq (maxFrameBytes : Nat) (buffer : List UInt8) :
    drain maxFrameBytes buffer = specification maxFrameBytes buffer := by
  have trimmed : specification maxFrameBytes (discardDelimiters buffer) =
      specification maxFrameBytes buffer := by
    rw [specification, discardDelimiters, Lines.reading_dropWhile]
    rfl
  rw [← trimmed]
  cases discardDelimiters_cases buffer with
  | inl clean =>
      have decoded := @decode_undelimited maxFrameBytes buffer _ rfl clean
      rw [specification, Lines.reading_undelimited clean]
      by_cases long : maxFrameBytes < (discardDelimiters buffer).length
      · rw [if_pos long] at decoded
        rw [drain_error decoded, if_neg (Nat.not_le.mpr long)]
      · rw [if_neg long] at decoded
        rw [drain_none decoded, if_pos (Nat.not_lt.mp long)]
  | inr found =>
      obtain ⟨line, d, after, clean, ends, filled, source⟩ := found
      have decoded := @decode_line maxFrameBytes _ _ _ _ source filled clean ends
      rw [source, specification, Lines.reading_line clean ends,
        if_neg (by simpa using filled)]
      by_cases long : maxFrameBytes < line.length
      · rw [if_pos long] at decoded
        rw [drain_error decoded, if_neg (Nat.not_le.mpr long)]
      · rw [if_neg long] at decoded
        have shorter := decode_shorter decoded
        have rest : specification maxFrameBytes (discardDelimiters (d :: after)) =
            specification maxFrameBytes after := by
          rw [specification, discardDelimiters, Lines.reading_dropWhile, Lines.reading_delimiter ends]
          rfl
        rw [drain_some decoded, drain_eq maxFrameBytes (discardDelimiters (d :: after)), rest,
          if_pos (Nat.not_lt.mp long)]
        rfl
termination_by buffer.length

section Composition

variable {maxFrameBytes : Nat} {before kept : List UInt8} {frames : List (List UInt8)}

theorem specification_waits (waits : specification maxFrameBytes before = (frames, .ok kept)) :
    kept = Lines.unfinished Text.isDelimiter before ∧ kept.length ≤ maxFrameBytes := by
  have outcome := congrArg Prod.snd waits
  simp only [specification] at outcome
  split at outcome
  · rename_i keeps
    obtain rfl := Except.ok.inj outcome
    exact Lines.reading_kept keeps
  · cases outcome

theorem specification_kept (waits : specification maxFrameBytes before = (frames, .ok kept)) :
    specification maxFrameBytes kept = ([], .ok kept) := by
  obtain ⟨same, fits⟩ := specification_waits waits
  have clean : Lines.Undelimited Text.isDelimiter kept := by
    rw [same]
    exact Lines.undelimited_unfinished before
  rw [specification, Lines.reading_undelimited clean, if_pos fits]

/-- A stream is specified in two parts: the second continues what the first kept. -/
theorem specification_append (waits : specification maxFrameBytes before = (frames, .ok kept))
    (after : List UInt8) :
    specification maxFrameBytes (before ++ after) =
      (frames ++ (specification maxFrameBytes (kept ++ after)).1,
        (specification maxFrameBytes (kept ++ after)).2) := by
  have lines := congrArg Prod.fst waits
  have outcome := congrArg Prod.snd waits
  simp only [specification] at lines outcome
  cases keeps : (Lines.reading Text.isDelimiter maxFrameBytes before).kept with
  | none =>
      rw [keeps] at outcome
      cases outcome
  | some part =>
      rw [keeps] at outcome
      obtain rfl := Except.ok.inj outcome
      rw [specification, Lines.reading_append, Lines.Reading.andThen, keeps, lines]
      rfl

theorem specification_failed {error : CodecError}
    (failed : specification maxFrameBytes before = (frames, .error error)) (after : List UInt8) :
    specification maxFrameBytes (before ++ after) = (frames, .error error) := by
  have outcome := congrArg Prod.snd failed
  simp only [specification] at outcome
  cases keeps : (Lines.reading Text.isDelimiter maxFrameBytes before).kept with
  | none =>
      rw [← failed, specification, Lines.reading_append, Lines.Reading.andThen, keeps, specification,
        keeps]
  | some part =>
      rw [keeps] at outcome
      cases outcome

end Composition

/-- What is received after a buffer that holds only an unfinished line. -/
theorem receive_eq (maxFrameBytes : Nat) (buffer : List UInt8) (chunks : List (List UInt8))
    (waiting : specification maxFrameBytes buffer = ([], .ok buffer)) :
    receive maxFrameBytes buffer chunks =
      specification maxFrameBytes (buffer ++ chunks.flatten) := by
  induction chunks generalizing buffer with
  | nil => rw [receive, List.flatten_nil, List.append_nil, waiting]
  | cons chunk chunks ih =>
      rw [receive, drain_eq, List.flatten_cons, ← List.append_assoc]
      split
      · rename_i failed
        rw [specification_failed failed]
      · rename_i waits
        rw [specification_append waits, ih _ (specification_kept waits)]

theorem specification_empty (maxFrameBytes : Nat) : specification maxFrameBytes [] = ([], .ok []) := by
  simp [specification, Lines.reading, Lines.complete, Lines.unfinished]

/-- Every frame that is handed on is one that the server takes for a frame. -/
theorem receive_frame {maxFrameBytes : Nat} {chunks : List (List UInt8)} {frame : List UInt8}
    (handed : frame ∈ (receive maxFrameBytes [] chunks).1) : Frame maxFrameBytes frame := by
  rw [receive_eq maxFrameBytes [] chunks (specification_empty maxFrameBytes)] at handed
  obtain ⟨nonempty, bounded, clean⟩ := Lines.mem_reading handed
  exact ⟨nonempty, bounded, List.any_eq_false.mpr fun b member => by simp [clean b member]⟩

/-- However the stream is cut into chunks, the frames and the failure are those of the whole stream, and
    between two chunks the buffer holds the unfinished line. -/
theorem receive_segmented (maxFrameBytes : Nat) (chunks : List (List UInt8)) :
    receive maxFrameBytes [] chunks = specification maxFrameBytes chunks.flatten ∧
      ∀ arrived frames rest, arrived <+: chunks →
        receive maxFrameBytes [] arrived = (frames, .ok rest) →
          rest = Lines.unfinished Text.isDelimiter arrived.flatten ∧ rest.length ≤ maxFrameBytes := by
  have whole : ∀ arrived, receive maxFrameBytes [] arrived =
      specification maxFrameBytes arrived.flatten :=
    fun arrived => receive_eq maxFrameBytes [] arrived (specification_empty maxFrameBytes)
  refine ⟨whole chunks, ?_⟩
  intro arrived frames rest _ received
  rw [whole arrived] at received
  exact specification_waits received

theorem receive_segmented_crlf :
    receive 4 [] [Text.bytes "ab\r", Text.bytes "\ncdef", Text.bytes "g"] =
      ([Text.bytes "ab"], .error (.frameTooLong 4)) :=
  (receive_segmented 4 _).1.trans (by decide)

end AsterFsd.FsdFrameCodec
