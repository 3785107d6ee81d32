/-!
# Deflated content

Content in blocks of bits.  A block holds bytes as they are, or symbols in codes of several lengths; a
symbol is a byte, the end of the block, or a length, and a length goes with a distance: so many bytes
are repeated from so far back.  Content that ends early counts as far as it goes.
-/

namespace ApiBindings.Web.Deflate

/-- Why bits are no content. -/
inductive Fault where
  | header
  | blockKind
  | storedLength
  | tooManyCodes
  | lengthCode
  | repetition
  | noEndOfBlock
  | letterCode
  | distanceCode
  | letter
  | distance
  | tooFarBack
deriving DecidableEq, Repr

/-- The text of a fault. -/
def Fault.text : Fault → String
  | header => "incorrect header check"
  | blockKind => "invalid block type"
  | storedLength => "invalid stored block lengths"
  | tooManyCodes => "too many length or distance symbols"
  | lengthCode => "invalid code lengths set"
  | repetition => "invalid bit length repeat"
  | noEndOfBlock => "invalid code -- missing end-of-block"
  | letterCode => "invalid literal/lengths set"
  | distanceCode => "invalid distances set"
  | letter => "invalid literal/length code"
  | distance => "invalid distance code"
  | tooFarBack => "invalid distance too far back"

/-! ## Bits -/

/-- Why reading stops: the bits are at their end, or they mean nothing. -/
inductive Stop where
  | ended
  | fault (f : Fault)

/-- How far the reading is: the bits to come, and the bytes so far. -/
structure Progress where
  bits : List Bool
  out : Array UInt8

abbrev Reading := ExceptT Stop (StateM Progress)

def bitsOf (bytes : List UInt8) : List Bool :=
  bytes.flatMap fun b => (List.range 8).map b.toNat.testBit

def refuse {α : Type} (f : Fault) : Reading α := throw (.fault f)

def orRefuse {α : Type} (f : Fault) : Option α → Reading α
  | some a => return a
  | none => refuse f

def bit : Reading Bool := do
  match (← get).bits with
  | [] => throw .ended
  | b :: rest =>
    modify fun p => { p with bits := rest }
    return b

def number : Nat → Reading Nat
  | 0 => return 0
  | n + 1 => do
    let b ← bit
    return b.toNat + 2 * (← number n)

def endByte : Reading Unit := modify fun p => { p with bits := p.bits.drop (p.bits.length % 8) }

def put (b : UInt8) : Reading Unit := modify fun p => { p with out := p.out.push b }

/-! ## Codes -/

/-- A code: for each length from one on, the symbols whose codes have it, in ascending order. -/
abbrev Code := List (List Nat)

/-- The code in which each symbol has a length; a symbol of length zero is not in it. -/
def codeOf (lengths : List Nat) : Code :=
  (List.range (max 1 (lengths.foldl max 0))).map fun n =>
    (lengths.zipIdx.filter fun entry => entry.1 == n + 1).map (·.2)

def Code.room (code : Code) : Int := code.foldl (fun room symbols => 2 * room - symbols.length) 1

def Code.isUsed (code : Code) : Bool := code.any (!·.isEmpty)

/-- whether each row of bits leads to one symbol, or the code has one symbol of one bit at most -/
def Code.isUsable (code : Code) : Bool :=
  code.room == 0 || (decide (0 < code.room) && decide (code.length ≤ 1))

/-- The symbol that the next bits are the code of, if there is one.  The offset counts from the first
code of the length under way. -/
def symbol : Code → Nat → Reading (Option Nat)
  | [], _ => return none
  | symbols :: longer, offset => do
    let offset := 2 * offset + (← bit).toNat
    match symbols[offset]? with
    | some s => return some s
    | none => symbol longer (offset - symbols.length)

/-- The code for bytes and lengths where a block does not tell one. -/
def commonLetters : Code :=
  codeOf (List.replicate 144 8 ++ List.replicate 112 9 ++ List.replicate 24 7 ++ List.replicate 8 8)

def commonDistances : Code := codeOf (List.replicate 32 5)

def lengthOrder : List Nat := [16, 17, 18, 0, 8, 7, 9, 6, 10, 5, 11, 4, 12, 3, 13, 2, 14, 1, 15]

/-- so many numbers of `size` bits -/
def numbers (size : Nat) : Nat → Reading (List Nat)
  | 0 => return []
  | n + 1 => do
    let first ← number size
    return first :: (← numbers size n)

/-- Reads lengths in a code until there are `total`; `done` holds them in reverse.  There are at most
`n` more steps. -/
def codeLengths (code : Code) (total : Nat) : Nat → List Nat → Reading (List Nat)
  | 0, done => return done.reverse
  | n + 1, done => do
    if total ≤ done.length then return done.reverse
    let s ← orRefuse .lengthCode (← symbol code 0)
    let again (least size : Nat) (length? : Option Nat) : Reading (List Nat) := do
      let count := least + (← number size)
      let length ← orRefuse .repetition length?
      if total < done.length + count then refuse .repetition
      codeLengths code total n (List.replicate count length ++ done)
    if s < 16 then codeLengths code total n (s :: done)
    else if s = 16 then again 3 2 done.head?
    else if s = 17 then again 3 3 (some 0)
    else again 11 7 (some 0)

/-- The code of the lengths.  Without a symbol, each bit is a zero. -/
def codeOfLengths : Nat → Reading Code
  | given => do
    let told ← numbers 3 given
    let code := codeOf ((List.range 19).map fun s => ((lengthOrder.zip told).lookup s).getD 0)
    if !code.isUsed then return [[0, 0]]
    if code.room != 0 then refuse .lengthCode
    return code

/-- The codes that a block tells: one for bytes and lengths, one for distances. -/
def toldCodes : Reading (Code × Code) := do
  let letters := 257 + (← number 5)
  let distances := 1 + (← number 5)
  let given := 4 + (← number 4)
  if 286 < letters ∨ 30 < distances then refuse .tooManyCodes
  let total := letters + distances
  let lengths ← codeLengths (← codeOfLengths given) total total []
  if lengths[256]? == some 0 then refuse .noEndOfBlock
  let letterCode := codeOf (lengths.take letters)
  let distanceCode := codeOf (lengths.drop letters)
  if !letterCode.isUsable then refuse .letterCode
  if !distanceCode.isUsable then refuse .distanceCode
  return (letterCode, distanceCode)

/-! ## Blocks -/

/-- The least length for each symbol from 257 on, and how many bits add to it. -/
def lengthTable : List (Nat × Nat) :=
  [(3, 0), (4, 0), (5, 0), (6, 0), (7, 0), (8, 0), (9, 0), (10, 0), (11, 1), (13, 1), (15, 1),
    (17, 1), (19, 2), (23, 2), (27, 2), (31, 2), (35, 3), (43, 3), (51, 3), (59, 3), (67, 4),
    (83, 4), (99, 4), (115, 4), (131, 5), (163, 5), (195, 5), (227, 5), (258, 0)]

/-- The least distance for each symbol, and how many bits add to it. -/
def distanceTable : List (Nat × Nat) :=
  [(1, 0), (2, 0), (3, 0), (4, 0), (5, 1), (7, 1), (9, 2), (13, 2), (17, 3), (25, 3), (33, 4),
    (49, 4), (65, 5), (97, 5), (129, 6), (193, 6), (257, 7), (385, 7), (513, 8), (769, 8),
    (1025, 9), (1537, 9), (2049, 10), (3073, 10), (4097, 11), (6145, 11), (8193, 12), (12289, 12),
    (16385, 13), (24577, 13)]

/-- The number that a symbol stands for in a table, with the bits that add to it. -/
def measured (f : Fault) (table : List (Nat × Nat)) (symbol? : Option Nat) : Reading Nat := do
  let (least, size) ← orRefuse f (symbol?.bind (table[·]?))
  return least + (← number size)

/-- Puts out so many bytes again, each from `distance` bytes back. -/
def putAgain (distance : Nat) : Nat → Reading Unit
  | 0 => return
  | n + 1 => do
    let out := (← get).out
    put (out[out.size - distance]?.getD 0)
    putAgain distance n

/-- A block of symbols; each has a bit at least. -/
def symbolBlock (letters distances : Code) : Nat → Reading Unit
  | 0 => throw .ended
  | n + 1 => do
    let s ← orRefuse .letter (← symbol letters 0)
    if s < 256 then
      put s.toUInt8
      symbolBlock letters distances n
    else if s = 256 then return
    else
      let length ← measured .letter lengthTable (some (s - 257))
      let distance ← measured .distance distanceTable (← symbol distances 0)
      if (← get).out.size < distance then refuse .tooFarBack
      putAgain distance length
      symbolBlock letters distances n

def putBytes : Nat → Reading Unit
  | 0 => return
  | n + 1 => do
    put (← number 8).toUInt8
    putBytes n

/-- A block of bytes as they are; it tells its length twice. -/
def storedBlock : Reading Unit := do
  endByte
  let length ← number 16
  if (← number 16) + length != 0xFFFF then refuse .storedLength
  putBytes length

/-- Blocks up to the last one; each has a bit at least. -/
def blocks : Nat → Reading Unit
  | 0 => throw .ended
  | n + 1 => do
    let isLast ← bit
    let size := (← get).bits.length
    match ← number 2 with
    | 0 => storedBlock
    | 1 => symbolBlock commonLetters commonDistances size
    | 2 =>
      let (letters, distances) ← toldCodes
      symbolBlock letters distances size
    | _ => refuse .blockKind
    if isLast then return
    blocks n

/-- Where the reading of blocks gets to, and why it stops if it does. -/
def progress (bytes : List UInt8) : Except Stop Unit × Progress :=
  let bits := bitsOf bytes
  (blocks bits.length).run.run ⟨bits, #[]⟩

/-! ## Content -/

def bare (bytes : List UInt8) : Except Fault (List UInt8) :=
  match progress bytes with
  | (.error (.fault f), _) => .error f
  | (_, p) => .ok p.out.toList

/-- The sums of bytes, and of these sums, to the modulus 65521. -/
def checksum (bytes : List UInt8) : Nat :=
  let (sum, sums) := bytes.foldl (fun (sum, sums) b =>
    let sum := (sum + b.toNat) % 65521
    (sum, (sums + sum) % 65521)) (1, 0)
  65536 * sums + sum

def check : Reading Nat := do
  endByte
  return (← numbers 8 4).foldl (256 * · + ·) 0

/-- The content of blocks between a header of two bytes and a checksum of four; nothing if there is no
such frame. -/
def framed? : List UInt8 → Option (List UInt8)
  | kind :: flags :: rest =>
    let hasHeader := (256 * kind.toNat + flags.toNat) % 31 == 0 && kind.toNat % 16 == 8 &&
      decide (kind.toNat < 128)
    if !hasHeader then none
    else if flags.toNat.testBit 5 then if rest.length < 4 then some [] else none
    else
      match progress rest with
      | (.error (.fault _), _) => none
      | (.error .ended, p) => some p.out.toList
      | (.ok _, p) =>
        let content := p.out.toList
        match (check.run.run p).1 with
        | .ok n => if n = checksum content then some content else none
        | .error _ => some content
  | _ => some []

/-- The content of deflated bytes, with or without a frame. -/
def inflated (bytes : List UInt8) : Except Fault (List UInt8) :=
  match framed? bytes with
  | some content => .ok content
  | none => bare bytes

end ApiBindings.Web.Deflate
