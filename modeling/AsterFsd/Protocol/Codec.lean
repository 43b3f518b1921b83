import AsterFsd.Protocol.Stream

/-! # The codec on both ends of a stream

Frames are encoded into one output buffer, and a decoder at the other end gets the bytes in chunks. Two
things are settled here: what is encoded is decoded again, and which frames a decoder hands on if it is
kept in use after a frame that was too long.
-/

namespace AsterFsd.FsdFrameCodec

/-! ## Encoding -/

/-- A codec with an explicit frame limit, which is all that a codec holds. -/
def new (maxFrameBytes : Nat) : Except CodecError Nat :=
  if maxFrameBytes = 0 then .error (.frameTooLong 0) else .ok maxFrameBytes

/-- The items that the codec encodes. -/
inductive Item where
  | vec (frame : List UInt8)
  | bytes (frame : List UInt8)
  deriving DecidableEq

def Item.frame : Item → List UInt8
  | .vec frame | .bytes frame => frame

/-- Appends a frame and its delimiter to the output buffer. -/
def encodeFrame (maxFrameBytes : Nat) (frame destination : List UInt8) :
    Except CodecError Unit × List UInt8 :=
  if maxFrameBytes < frame.length then (.error (.frameTooLong maxFrameBytes), destination)
  else if frame.any Text.isDelimiter then (.error .embeddedDelimiter, destination)
  else (.ok (), destination ++ frame ++ [13, 10])

def encodeVec := encodeFrame

def encodeBytes := encodeFrame

def encode (maxFrameBytes : Nat) : Item → List UInt8 → Except CodecError Unit × List UInt8
  | .vec frame => encodeVec maxFrameBytes frame
  | .bytes frame => encodeBytes maxFrameBytes frame

/-- Encodes the items one after the other on the same output buffer. -/
def encodeAll (maxFrameBytes : Nat) :
    List UInt8 → List Item → List (Except CodecError Unit) × List UInt8
  | destination, [] => ([], destination)
  | destination, item :: items =>
      let (outcome, rest) := encode maxFrameBytes item destination
      let (outcomes, last) := encodeAll maxFrameBytes rest items
      (outcome :: outcomes, last)

/-- Within the limit and without CR or LF. -/
def Fits (maxFrameBytes : Nat) (frame : List UInt8) : Prop :=
  frame.length ≤ maxFrameBytes ∧ frame.any Text.isDelimiter = false
  deriving Decidable

section Rules

variable {maxFrameBytes : Nat} {item : Item}

theorem encode_eq (item : Item) : encode maxFrameBytes item = encodeFrame maxFrameBytes item.frame := by
  cases item <;> rfl

theorem encode_fits (fits : Fits maxFrameBytes item.frame) (destination : List UInt8) :
    encode maxFrameBytes item destination = (.ok (), destination ++ (item.frame ++ [13, 10])) := by
  rw [encode_eq, encodeFrame, if_neg (Nat.not_lt.mpr fits.1), if_neg (by simp [fits.2]), List.append_assoc]

theorem encode_rejects (rejected : ¬ Fits maxFrameBytes item.frame) (destination : List UInt8) :
    ∃ error, encode maxFrameBytes item destination = (.error error, destination) := by
  rw [encode_eq, encodeFrame]
  by_cases long : maxFrameBytes < item.frame.length
  · exact ⟨_, if_pos long⟩
  · have delimiter : item.frame.any Text.isDelimiter = true := by
      by_contra clean
      exact rejected ⟨Nat.not_lt.mp long, by simpa using clean⟩
    exact ⟨_, (if_neg long).trans (if_pos delimiter)⟩

end Rules

/-- What the items leave in the output buffer. -/
theorem encodeAll_snd (maxFrameBytes : Nat) (destination : List UInt8) (items : List Item) :
    (encodeAll maxFrameBytes destination items).2 =
      destination ++ ((items.map Item.frame).filter (Fits maxFrameBytes)).flatMap (· ++ [13, 10]) := by
  induction items generalizing destination with
  | nil => simp [encodeAll]
  | cons item items ih =>
      rw [encodeAll, List.map_cons]
      by_cases fits : Fits maxFrameBytes item.frame
      · simp only [encode_fits fits]
        rw [ih, List.filter_cons_of_pos (by simpa using fits), List.flatMap_cons, List.append_assoc]
      · obtain ⟨error, rejected⟩ := encode_rejects fits destination
        simp only [rejected]
        rw [ih, List.filter_cons_of_neg (by simpa using fits)]

/-- A rejected frame leaves the output buffer as it was, and the buffer is decoded to the accepted frames
    that are not empty, however it is cut into chunks. -/
theorem encodeAll_reads_back (maxFrameBytes : Nat) (items : List Item) (chunks : List (List UInt8))
    (cut : chunks.flatten = (encodeAll maxFrameBytes [] items).2) :
    (∀ item destination, maxFrameBytes < item.frame.length ∨ item.frame.any Text.isDelimiter = true →
      ∃ error, encode maxFrameBytes item destination = (.error error, destination)) ∧
    (∀ item destination, Fits maxFrameBytes item.frame →
      (encode maxFrameBytes item destination).1 = .ok ()) ∧
    receive maxFrameBytes [] chunks =
      (((items.map Item.frame).filter (Fits maxFrameBytes)).filter (! ·.isEmpty), .ok []) := by
  refine ⟨?rejected, ?accepted, ?decoded⟩
  case rejected =>
    intro item destination rejected
    refine encode_rejects (fun fits => ?_) destination
    cases rejected with
    | inl long => exact absurd fits.1 (Nat.not_le.mpr long)
    | inr delimiter => exact Bool.false_ne_true (fits.2.symm.trans delimiter)
  case accepted =>
    intro item destination fits
    rw [encode_fits fits]
  case decoded =>
    have frames : ∀ frame ∈ (items.map Item.frame).filter (Fits maxFrameBytes), Fits maxFrameBytes frame :=
      fun frame member => by simpa using (List.mem_filter.mp member).2
    have read := @Lines.reading_joined _ Text.isDelimiter maxFrameBytes _ 13 [10] rfl
      (by simp [Text.isDelimiter])
      (fun frame member b inside =>
        Bool.eq_false_iff.mpr (List.any_eq_false.mp (frames frame member).2 b inside))
      (fun frame member => (frames frame member).1)
    rw [(receive_segmented maxFrameBytes chunks).1, cut, encodeAll_snd, List.nil_append, specification,
      read]

/-- The third frame is too long; the chunks cut a CR LF in two. -/
theorem encodeAll_reads_back_cut :
    receive 4 [] [Text.bytes "ab\r", Text.bytes "\n\r\nc", Text.bytes "def\r\n"] =
      ([Text.bytes "ab", Text.bytes "cdef"], .ok []) :=
  (encodeAll_reads_back 4 [.vec (Text.bytes "ab"), .bytes [], .vec (Text.bytes "12345"),
    .bytes (Text.bytes "cdef")] _ (by decide)).2.2.trans (by decide)

/-! ## Reading on after a frame that was too long -/

/-- Decodes until the buffer holds no whole frame any more, whatever was wrong on the way. -/
def drainAll (maxFrameBytes : Nat) (buffer : List UInt8) :
    List (Except CodecError (List UInt8)) × List UInt8 :=
  match _ : decode maxFrameBytes buffer with
  | (.ok none, rest) => ([], rest)
  | (.ok (some frame), rest) =>
      let (results, kept) := drainAll maxFrameBytes rest
      (.ok frame :: results, kept)
  | (.error error, rest) =>
      let (results, kept) := drainAll maxFrameBytes rest
      (.error error :: results, kept)
termination_by buffer.length
decreasing_by
  · exact decode_consumes ‹_› (by simp)
  · exact decode_consumes ‹_› (by simp)

/-- Appends the chunks to the buffer one after the other, and takes out the results after each. -/
def receiveAll (maxFrameBytes : Nat) :
    List UInt8 → List (List UInt8) → List (Except CodecError (List UInt8)) × List UInt8
  | buffer, [] => ([], buffer)
  | buffer, chunk :: chunks =>
      let (results, rest) := drainAll maxFrameBytes (buffer ++ chunk)
      let (more, kept) := receiveAll maxFrameBytes rest chunks
      (results ++ more, kept)

/-- The frames among the results. -/
def frames (results : List (Except CodecError (List UInt8))) : List (List UInt8) :=
  results.filterMap Except.toOption

section Rules

variable {maxFrameBytes : Nat} {buffer frame rest : List UInt8}

theorem drainAll_none (decoded : decode maxFrameBytes buffer = (.ok none, rest)) :
    drainAll maxFrameBytes buffer = ([], rest) := by
  rw [drainAll]
  split <;> simp_all

theorem drainAll_some (decoded : decode maxFrameBytes buffer = (.ok (some frame), rest)) :
    drainAll maxFrameBytes buffer =
      (.ok frame :: (drainAll maxFrameBytes rest).1, (drainAll maxFrameBytes rest).2) := by
  rw [drainAll]
  split <;> simp_all

theorem drainAll_error {error : CodecError}
    (decoded : decode maxFrameBytes buffer = (.error error, rest)) :
    drainAll maxFrameBytes buffer =
      (.error error :: (drainAll maxFrameBytes rest).1, (drainAll maxFrameBytes rest).2) := by
  rw [drainAll]
  split <;> simp_all

end Rules

/-- One buffer gives the lines that are within the limit. The unfinished line is kept, unless it is too
    long: then nothing of it is. -/
theorem drainAll_eq (maxFrameBytes : Nat) (buffer : List UInt8) :
    frames (drainAll maxFrameBytes buffer).1 =
        (Lines.complete Text.isDelimiter buffer).filter (·.length ≤ maxFrameBytes) ∧
      (drainAll maxFrameBytes buffer).2 =
        Lines.keep maxFrameBytes (Lines.unfinished Text.isDelimiter buffer) := by
  have lines (stream : List UInt8) : Lines.complete Text.isDelimiter (discardDelimiters stream) =
      Lines.complete Text.isDelimiter stream := Lines.complete_dropWhile stream
  have last (stream : List UInt8) : Lines.unfinished Text.isDelimiter (discardDelimiters stream) =
      Lines.unfinished Text.isDelimiter stream := Lines.unfinished_dropWhile stream
  rw [← lines buffer, ← last buffer]
  cases discardDelimiters_cases buffer with
  | inl clean =>
      have decoded := @decode_undelimited maxFrameBytes buffer _ rfl clean
      rw [Lines.complete_undelimited clean, Lines.unfinished_undelimited clean, Lines.keep]
      by_cases long : maxFrameBytes < (discardDelimiters buffer).length
      · have empty : drainAll maxFrameBytes [] = ([], []) :=
          drainAll_none (by simp [decode, discardDelimiters])
        rw [if_pos long] at decoded
        rw [drainAll_error decoded, empty, if_pos long]
        exact ⟨rfl, rfl⟩
      · rw [if_neg long] at decoded
        rw [drainAll_none decoded, if_neg long]
        exact ⟨rfl, rfl⟩
  | inr found =>
      obtain ⟨line, d, after, clean, ends, filled, source⟩ := found
      have decoded := @decode_line maxFrameBytes _ _ _ _ source filled clean ends
      have shorter : (discardDelimiters (d :: after)).length < buffer.length := by
        by_cases long : maxFrameBytes < line.length
        · exact decode_consumes (decoded.trans (if_pos long)) (by simp)
        · exact decode_consumes (decoded.trans (if_neg long)) (by simp)
      obtain ⟨more, kept⟩ := drainAll_eq maxFrameBytes (discardDelimiters (d :: after))
      rw [lines, Lines.complete_delimiter ends] at more
      rw [last, Lines.unfinished_delimiter ends] at kept
      rw [source, Lines.complete_line clean ends, Lines.unfinished_line clean ends, Lines.filter_line, ← more,
        ← kept]
      by_cases long : maxFrameBytes < line.length
      · rw [if_pos long] at decoded
        rw [drainAll_error decoded, Lines.offered_long long]
        exact ⟨rfl, rfl⟩
      · rw [if_neg long] at decoded
        rw [drainAll_some decoded, Lines.offered_fits filled long]
        exact ⟨rfl, rfl⟩
termination_by buffer.length

/-- The frames of a stream are read as by a reader that may keep nothing of an unfinished line. -/
theorem receiveAll_eq (maxFrameBytes : Nat) (buffer : List UInt8) (chunks : List (List UInt8)) :
    frames (receiveAll maxFrameBytes buffer chunks).1 =
      Lines.readPieces Text.isDelimiter maxFrameBytes buffer chunks := by
  induction chunks generalizing buffer with
  | nil => rfl
  | cons chunk chunks ih =>
      obtain ⟨handed, kept⟩ := drainAll_eq maxFrameBytes (buffer ++ chunk)
      rw [receiveAll, Lines.readPieces, ← handed, ← kept, ← ih]
      exact List.filterMap_append

/-- A decoder that is used on after a frame that was too long hands on just the lines within the limit if
    and only if no line that is too long has its end, of at most the limit, left over from the chunks in
    which it was found to be too long. -/
theorem receiveAll_resumes_iff (maxFrameBytes : Nat) (chunks : List (List UInt8)) :
    frames (receiveAll maxFrameBytes [] chunks).1 =
        (Lines.complete Text.isDelimiter chunks.flatten).filter (·.length ≤ maxFrameBytes) ↔
      ∀ line ∈ Lines.complete (Lines.endsLine Text.isDelimiter) (Lines.marked chunks),
        maxFrameBytes < line.reduceOption.length →
          Lines.leftover maxFrameBytes line = 0 ∨ maxFrameBytes < Lines.leftover maxFrameBytes line := by
  rw [receiveAll_eq]
  exact Lines.readPieces_resumes_iff chunks

/-- The end of a line that is too long is handed on as a frame of its own. -/
theorem overlongLine_leaks :
    frames (receiveAll 4 [] [Text.bytes "12345", Text.bytes "67\r\n"]).1 = [Text.bytes "67"] ∧
      (Lines.complete Text.isDelimiter [Text.bytes "12345", Text.bytes "67\r\n"].flatten).filter
        (·.length ≤ 4) = [] := by
  rw [receiveAll_eq]
  decide

end AsterFsd.FsdFrameCodec
