import JavaFragments.Number.Digits

/-! # Strict UTF-8

`decode` decodes bytes as a whole.  `decodeBlocks` decodes the bytes of a file in blocks, as
a reader that asks for a block at a time does: the text of the blocks before the first fault is available to the
reader, and the fault is located within the bytes that were looked at last. -/

namespace JavaFragments.Text.Utf8

/-- What is wrong with a sequence of bytes. -/
inductive Reason
  | invalidStart
  | invalidContinuation
  | unexpectedEnd
deriving DecidableEq, Repr

/-- A place at which decoding fails: `size` bytes from `start` on, the first being `byte`. -/
structure Fault where
  byte : Nat
  start : Nat
  size : Nat
  reason : Reason
deriving DecidableEq, Repr

/-- Wording of a reason. -/
def Reason.message : Reason → String
  | .invalidStart => "invalid start byte"
  | .invalidContinuation => "invalid continuation byte"
  | .unexpectedEnd => "unexpected end of data"

/-- Wording of a fault: one byte is shown, several are located only. -/
def Fault.message (f : Fault) : String :=
  if f.size = 1 then
    s!"'utf-8' codec can't decode byte 0x{String.ofList (fixedHex lowerHexDigit 2 f.byte)}" ++
      s!" in position {f.start}: {f.reason.message}"
  else
    s!"'utf-8' codec can't decode bytes in position {f.start}-{f.start + f.size - 1}: " ++
      f.reason.message

/-- What stands at the start of a sequence of bytes. -/
inductive Head
  /-- A character of `size` bytes. -/
  | char (c : Char) (size : Nat)
  /-- All bytes there are could begin a character. -/
  | cut
  /-- Two bytes that begin a surrogate, and nothing behind them. -/
  | cutSurrogate
  /-- `size` bytes that begin no character. -/
  | bad (size : Nat) (reason : Reason)

/-- Whether `b` continues a character. -/
def isContinuation (b : Nat) : Bool := 0x80 ≤ b && b < 0xC0

/-- Whether `b` may follow the first byte `a` of a character. -/
def isSecond (a b : Nat) : Bool :=
  isContinuation b &&
    !(a == 0xE0 && b < 0xA0) && !(a == 0xED && 0xA0 ≤ b) &&
    !(a == 0xF0 && b < 0x90) && !(a == 0xF4 && 0x90 ≤ b)

/-- Looks at the bytes after the first byte `a`. -/
def head (a : Nat) (rest : List Nat) : Head :=
  if a < 0x80 then .char (Char.ofNat a) 1
  else if a < 0xC2 ∨ 0xF5 ≤ a then .bad 1 .invalidStart
  else
    match rest with
    | [] => .cut
    | b :: rest =>
      if !isSecond a b then
        -- whether this is a surrogate shows only with the third byte
        if a = 0xED ∧ isContinuation b ∧ rest = [] then .cutSurrogate
        else .bad 1 .invalidContinuation
      else if a < 0xE0 then .char (Char.ofNat ((a - 0xC0) * 64 + (b - 0x80))) 2
      else
        match rest with
        | [] => .cut
        | c :: rest =>
          if !isContinuation c then .bad 2 .invalidContinuation
          else if a < 0xF0 then
            .char (Char.ofNat (((a - 0xE0) * 64 + (b - 0x80)) * 64 + (c - 0x80))) 3
          else
            match rest with
            | [] => .cut
            | d :: _ =>
              if !isContinuation d then .bad 3 .invalidContinuation
              else
                .char (Char.ofNat
                  ((((a - 0xF0) * 64 + (b - 0x80)) * 64 + (c - 0x80)) * 64 + (d - 0x80))) 4

/-- Decodes one block from position `at` on.  Bytes that only begin a character are left
    over for the next block, unless this is the last one. -/
def decodeBlock (last : Bool) (start : Nat) :
    (bytes : List Nat) → Except Fault (List Char × List Nat)
  | [] => .ok ([], [])
  | a :: rest =>
    match head a rest with
    | .char c size => do
      let (text, left) ← decodeBlock last (start + size) (rest.drop (size - 1))
      .ok (c :: text, left)
    | .cut =>
      if last then .error ⟨a, start, rest.length + 1, .unexpectedEnd⟩ else .ok ([], a :: rest)
    | .cutSurrogate =>
      if last then .error ⟨a, start, 1, .invalidContinuation⟩ else .ok ([], a :: rest)
    | .bad size reason => .error ⟨a, start, size, reason⟩
termination_by bytes => bytes.length
decreasing_by simp only [List.length_drop, List.length_cons]; omega

/-- Decodes bytes as a whole. -/
def decode (bytes : List Nat) : Except Fault (List Char) := Prod.fst <$> decodeBlock true 0 bytes

/-- Text that could be decoded, and the fault that ended decoding if there is one. -/
structure Decoded where
  text : List Char
  fault : Option Fault
deriving DecidableEq

/-- Decodes block after block; `left` are the bytes that an earlier block left over. -/
def decodeFrom (blockSize : Nat) (left bytes : List Nat) : Decoded :=
  if _h : bytes = [] ∨ blockSize = 0 then
    match decodeBlock true 0 (left ++ bytes) with
    | .ok (text, _) => ⟨text, none⟩
    | .error fault => ⟨[], some fault⟩
  else
    match decodeBlock false 0 (left ++ bytes.take blockSize) with
    | .error fault => ⟨[], some fault⟩
    | .ok (text, left) =>
      let rest := decodeFrom blockSize left (bytes.drop blockSize)
      ⟨text ++ rest.text, rest.fault⟩
termination_by bytes.length
decreasing_by
  have := List.length_pos_iff.2 (mt Or.inl ‹_›)
  simp only [List.length_drop]
  omega

/-- Files are read in blocks of this many bytes. -/
def blockSize : Nat := 8192

/-- Decodes the bytes of a file. -/
def decodeBlocks (bytes : List Nat) : Decoded := decodeFrom blockSize [] bytes

end JavaFragments.Text.Utf8
