/-! Texts as UTF-8 bytes. Bytes that are not UTF-8 are shown with a replacement character. -/

namespace TrackFinder.Utf8

/-- The bytes of a text. -/
def encode (text : String) : List UInt8 := text.toList.flatMap String.utf8EncodeChar

/-- The text that the bytes spell, if they are UTF-8. -/
def decode? (bytes : List UInt8) : Option String := String.fromUTF8? bytes.toByteArray

/-- A sequence of which some bytes are read: the range of each byte to come, and the bits so far. -/
structure Partial where
  wanted : List (UInt8 × UInt8)
  bits : Nat

/-- The sequence that a lead byte opens. The narrow ranges keep out long forms and surrogates. -/
def Partial.ofLead? (b : UInt8) : Option Partial :=
  let tail : UInt8 × UInt8 := (0x80, 0xBF)
  if 0xC2 ≤ b && b ≤ 0xDF then some ⟨[tail], b.toNat % 32⟩
  else if b == 0xE0 then some ⟨[(0xA0, 0xBF), tail], 0⟩
  else if b == 0xED then some ⟨[(0x80, 0x9F), tail], 13⟩
  else if 0xE1 ≤ b && b ≤ 0xEF then some ⟨[tail, tail], b.toNat % 16⟩
  else if b == 0xF0 then some ⟨[(0x90, 0xBF), tail, tail], 0⟩
  else if 0xF1 ≤ b && b ≤ 0xF3 then some ⟨[tail, tail, tail], b.toNat % 8⟩
  else if b == 0xF4 then some ⟨[(0x80, 0x8F), tail, tail], 4⟩
  else none

/-- Stands for a sequence that is not UTF-8. -/
def replacement : Char := '\uFFFD'

/-- The characters that a byte completes and the sequence that it leaves open, where none was open
before. -/
def afresh (b : UInt8) : List Char × Option Partial :=
  if b < 0x80 then ([Char.ofNat b.toNat], none)
  else
    match Partial.ofLead? b with
    | some opened => ([], some opened)
    | none => ([replacement], none)

/-- As `afresh`, after the sequence that is open. A byte that cannot continue it closes it as a bad
one and is read anew. -/
def advance (opened : Option Partial) (b : UInt8) : List Char × Option Partial :=
  match opened with
  | some ⟨(low, high) :: wanted, bits⟩ =>
    if low ≤ b && b ≤ high then
      let bits := bits * 64 + b.toNat % 64
      if wanted.isEmpty then ([Char.ofNat bits], none) else ([], some ⟨wanted, bits⟩)
    else
      let (text, next) := afresh b
      (replacement :: text, next)
  | _ => afresh b

/-- Reads on, with the sequence that is open. -/
def lossyFrom (opened : Option Partial) : List UInt8 → List Char
  | [] => if opened.isSome then [replacement] else []
  | b :: rest =>
    let (text, opened) := advance opened b
    text ++ lossyFrom opened rest

/-- The text of the bytes, each bad sequence replaced. -/
def lossy (bytes : List UInt8) : String :=
  match decode? bytes with
  | some text => text
  | none => String.ofList (lossyFrom none bytes)

end TrackFinder.Utf8
