/-!
# Digests

The BLAKE3 hash of a sequence of bytes. The input is cut into chunks of 1024 bytes and each chunk
into blocks of 64; the chunks are the leaves of a binary tree whose left branches are full, and
every node passes on a chaining value of eight words.
-/

namespace ScriptRoster.Text.Digest

/-- A block of sixteen words. -/
abbrev Block := Vector UInt32 16

/-- A chaining value. -/
abbrev Chaining := Vector UInt32 8

def initial : Chaining :=
  #v[0x6a09e667, 0xbb67ae85, 0x3c6ef372, 0xa54ff53a, 0x510e527f, 0x9b05688c, 0x1f83d9ab,
    0x5be0cd19]

/-- The order in which a round takes the words of the round before. -/
def permutation : Vector (Fin 16) 16 := #v[2, 6, 3, 10, 7, 0, 4, 13, 1, 11, 12, 5, 9, 14, 15, 8]

def permute (block : Block) : Block := permutation.map fun i => block[i]

def rotate (x n : UInt32) : UInt32 := (x >>> n) ||| (x <<< (32 - n))

/-- Mixes two words of a block into four words of the state. -/
def mix (s : Block) (a b c d : Fin 16) (x y : UInt32) : Block :=
  let s := s.set a (s[a] + s[b] + x)
  let s := s.set d (rotate (s[d] ^^^ s[a]) 16)
  let s := s.set c (s[c] + s[d])
  let s := s.set b (rotate (s[b] ^^^ s[c]) 12)
  let s := s.set a (s[a] + s[b] + y)
  let s := s.set d (rotate (s[d] ^^^ s[a]) 8)
  let s := s.set c (s[c] + s[d])
  s.set b (rotate (s[b] ^^^ s[c]) 7)

/-- One round: columns, then diagonals. -/
def round (s m : Block) : Block :=
  let s := mix s 0 4 8 12 m[0] m[1]
  let s := mix s 1 5 9 13 m[2] m[3]
  let s := mix s 2 6 10 14 m[4] m[5]
  let s := mix s 3 7 11 15 m[6] m[7]
  let s := mix s 0 5 10 15 m[8] m[9]
  let s := mix s 1 6 11 12 m[10] m[11]
  let s := mix s 2 7 8 13 m[12] m[13]
  mix s 3 4 9 14 m[14] m[15]

def rounds : Nat → Block → Block → Block
  | 0, s, _ => s
  | n + 1, s, m => rounds n (round s m) (permute m)

/-- A node of the tree before it is compressed. -/
structure Node where
  chaining : Chaining
  block : Block
  counter : Nat
  length : UInt32
  flags : UInt32

def chunkStart : UInt32 := 1
def chunkEnd : UInt32 := 2
def parentFlag : UInt32 := 4
def rootFlag : UInt32 := 8

/-- The first eight words of the compressed node. -/
def Node.compress (node : Node) (flags : UInt32) : Chaining :=
  let h := node.chaining
  let start : Block :=
    #v[h[0], h[1], h[2], h[3], h[4], h[5], h[6], h[7], initial[0], initial[1], initial[2],
      initial[3], node.counter.toUInt32, (node.counter / 0x100000000).toUInt32, node.length,
      node.flags ||| flags]
  let s := rounds 7 start node.block
  Vector.ofFn fun i : Fin 8 => s[i.val] ^^^ s[i.val + 8]

/-- A word from four bytes, the lowest first; bytes that are lacking count as zero. -/
def word (bytes : List UInt8) : UInt32 :=
  bytes.foldr (fun b acc => acc <<< 8 ||| b.toUInt32) 0

/-- A block from at most 64 bytes. -/
def block (bytes : List UInt8) : Block :=
  Vector.ofFn fun i : Fin 16 => word ((bytes.drop (4 * i.val)).take 4)

/-- Cuts a list into parts of `size`, at most `fuel` of them; an empty list is one empty part. -/
def cut (size : Nat) : Nat → List UInt8 → List (List UInt8)
  | 0, bytes => [bytes]
  | fuel + 1, bytes =>
      if bytes.length ≤ size then [bytes] else bytes.take size :: cut size fuel (bytes.drop size)

/-- Runs through the blocks of a chunk; the last one is left uncompressed. -/
def chunkNode (counter : Nat) (chaining : Chaining) (flags : UInt32) : List (List UInt8) → Node
  | [] => ⟨chaining, block [], counter, 0, flags ||| chunkEnd⟩
  | [last] => ⟨chaining, block last, counter, last.length.toUInt32, flags ||| chunkEnd⟩
  | bytes :: rest =>
      let node : Node := ⟨chaining, block bytes, counter, 64, flags⟩
      chunkNode counter (node.compress 0) 0 rest

/-- The node of a chunk. -/
def chunk (counter : Nat) (bytes : List UInt8) : Node :=
  chunkNode counter initial chunkStart (cut 64 16 bytes)

/-- The node above two others. -/
def parent (left right : Node) : Node :=
  ⟨initial, Vector.ofFn fun i : Fin 16 =>
    if h : i.val < 8 then (left.compress 0)[i.val] else (right.compress 0)[i.val - 8], 0, 64,
    parentFlag⟩

/-- The greatest power of two below `n`, starting from `power`. -/
def leftSize : Nat → Nat → Nat → Nat
  | 0, _, power => power
  | fuel + 1, n, power => if 2 * power < n then leftSize fuel n (2 * power) else power

/-- The root over chunks, which are at most `depth` levels below it. -/
def join : Nat → List Node → Node
  | _, [] => chunk 0 []
  | _, [node] => node
  | 0, node :: _ => node
  | depth + 1, nodes =>
      let left := leftSize nodes.length nodes.length 1
      parent (join depth (nodes.take left)) (join depth (nodes.drop left))

/-- The bytes of a word, the lowest first. -/
def wordBytes (w : UInt32) : List UInt8 :=
  [w.toUInt8, (w >>> 8).toUInt8, (w >>> 16).toUInt8, (w >>> 24).toUInt8]

/-- The hash of a sequence of bytes, 32 bytes long. -/
def hash (bytes : List UInt8) : List UInt8 :=
  let chunks := cut 1024 bytes.length bytes
  let nodes := (List.range chunks.length).zipWith chunk chunks
  ((join nodes.length nodes).compress rootFlag).toList.flatMap wordBytes

/-- A byte as two hexadecimal digits. -/
def hexByte (b : UInt8) : List Char :=
  [Nat.digitChar (b.toNat / 16), Nat.digitChar (b.toNat % 16)]

/-- Bytes as hexadecimal digits. -/
def hex (bytes : List UInt8) : String := String.ofList (bytes.flatMap hexByte)

end ScriptRoster.Text.Digest
