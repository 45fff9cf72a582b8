/-!
# UTF-8

Text as bytes and back. Bytes that are no UTF-8 fall into pieces: characters, and broken passages
of the greatest length that could still have begun a character. Strict decoding reports the first
broken passage, lossy decoding puts a replacement character for each.
-/

namespace ScriptRoster.Text

/-- A sequence of bytes. -/
abbrev Bytes := List UInt8

/-- The bytes of a text. -/
def encode (s : String) : Bytes := s.toList.flatMap String.utf8EncodeChar

/-- A character, or a passage that is none; `cut` when the passage is only cut off by the end. -/
inductive Piece where
  | char (c : Char) (bytes : Nat)
  | broken (bytes : Nat) (cut : Bool)
  deriving DecidableEq, Repr

/-- The number of bytes a piece takes up. -/
def Piece.size : Piece → Nat
  | char _ bytes => bytes
  | broken bytes _ => bytes

def isTail (b : UInt8) : Bool := 0x80 ≤ b && b ≤ 0xbf

/-- Whether two bytes may begin a character of three. -/
def beginsThree (a b : UInt8) : Bool :=
  if a == 0xe0 then 0xa0 ≤ b && b ≤ 0xbf
  else if a == 0xed then 0x80 ≤ b && b ≤ 0x9f
  else isTail b

/-- Whether two bytes may begin a character of four. -/
def beginsFour (a b : UInt8) : Bool :=
  if a == 0xf0 then 0x90 ≤ b && b ≤ 0xbf
  else if a == 0xf4 then 0x80 ≤ b && b ≤ 0x8f
  else isTail b

/-- The six bits a following byte carries. -/
def bits (b : UInt8) : Nat := b.toNat % 64

/-- The first piece of the bytes `a :: s`. -/
def firstPiece (a : UInt8) (s : Bytes) : Piece :=
  if a < 0x80 then .char (Char.ofNat a.toNat) 1
  else if 0xc2 ≤ a && a ≤ 0xdf then
    match s with
    | [] => .broken 1 true
    | b :: _ =>
        if isTail b then .char (Char.ofNat (a.toNat % 32 * 64 + bits b)) 2 else .broken 1 false
  else if 0xe0 ≤ a && a ≤ 0xef then
    match s with
    | [] => .broken 1 true
    | b :: t =>
        if beginsThree a b then
          match t with
          | [] => .broken 2 true
          | c :: _ =>
              if isTail c then .char (Char.ofNat ((a.toNat % 16 * 64 + bits b) * 64 + bits c)) 3
              else .broken 2 false
        else .broken 1 false
  else if 0xf0 ≤ a && a ≤ 0xf4 then
    match s with
    | [] => .broken 1 true
    | b :: t =>
        if beginsFour a b then
          match t with
          | [] => .broken 2 true
          | c :: u =>
              if isTail c then
                match u with
                | [] => .broken 3 true
                | d :: _ =>
                    if isTail d then
                      .char (Char.ofNat
                        (((a.toNat % 8 * 64 + bits b) * 64 + bits c) * 64 + bits d)) 4
                    else .broken 3 false
              else .broken 2 false
        else .broken 1 false
  else .broken 1 false

/-- The pieces of a sequence of bytes, in order. -/
def pieces : Bytes → List Piece
  | [] => []
  | a :: s =>
      let piece := firstPiece a s
      piece :: pieces (s.drop (piece.size - 1))
  termination_by bytes => bytes.length

/-- The first broken passage of a sequence of bytes. -/
structure Utf8Error where
  index : Nat
  bytes : Nat
  cut : Bool
  deriving DecidableEq, Repr

def Utf8Error.message (error : Utf8Error) : String :=
  if error.cut then "incomplete utf-8 byte sequence from index " ++ toString error.index
  else
    "invalid utf-8 sequence of " ++ toString error.bytes ++ " bytes from index "
      ++ toString error.index

/-- The characters of pieces that begin at an index, if none is broken. -/
def charsFrom (index : Nat) : List Piece → Except Utf8Error (List Char)
  | [] => .ok []
  | .char c n :: rest => (charsFrom (index + n) rest).map (c :: ·)
  | .broken n cut :: _ => .error ⟨index, n, cut⟩

/-- The text that the bytes encode. -/
def decode (bytes : Bytes) : Except Utf8Error String :=
  (charsFrom 0 (pieces bytes)).map String.ofList

/-- The text that the bytes encode, or nothing. -/
def decode? (bytes : Bytes) : Option String := (decode bytes).toOption

/-- The bytes that characters take up. -/
def byteLength : List Char → Nat
  | [] => 0
  | c :: rest => c.utf8Size + byteLength rest

/-- The character a piece is shown as. -/
def Piece.shown : Piece → Char
  | char c _ => c
  | broken _ _ => '\ufffd'

/-- The text of the bytes with a replacement character for each broken passage. -/
def decodeLossy (bytes : Bytes) : String := String.ofList ((pieces bytes).map Piece.shown)

end ScriptRoster.Text
