import JujuMigration.Text.Basic
/-! Bytes as UTF-8. Decoding walks the bytes once; what is owed of the current character is a `Pending`.
A text that is not UTF-8 is refused at its first bad run: a lead byte with the continuation bytes that
were still acceptable after it. -/

namespace JujuMigration

abbrev Bytes := List UInt8

namespace Utf8

inductive Reason
  | invalidStart
  | invalidContinuation
  | unexpectedEnd
  deriving DecidableEq, Repr

structure Fault where
  /-- Offset of the bad run's first byte. -/
  start : Nat
  lead : UInt8
  /-- Number of bytes in the bad run. -/
  length : Nat
  reason : Reason
  deriving DecidableEq, Repr

/-- A character whose last bytes are still to come. -/
structure Pending where
  start : Nat
  lead : UInt8
  seen : Nat
  value : Nat
  missing : Nat
  /-- Bounds of the next byte. -/
  low : UInt8
  high : UInt8
  deriving DecidableEq, Repr

/-- What a lead byte above ASCII announces, or nothing if no character begins with it. -/
def Pending.ofLead? (start : Nat) (b : UInt8) : Option Pending :=
  if b < 0xC2 then none
  else if b < 0xE0 then some ⟨start, b, 1, b.toNat - 0xC0, 1, 0x80, 0xBF⟩
  else if b < 0xF0 then
    some ⟨start, b, 1, b.toNat - 0xE0, 2, if b = 0xE0 then 0xA0 else 0x80, if b = 0xED then 0x9F else 0xBF⟩
  else if b < 0xF5 then
    some ⟨start, b, 1, b.toNat - 0xF0, 3, if b = 0xF0 then 0x90 else 0x80, if b = 0xF4 then 0x8F else 0xBF⟩
  else none

def Pending.fault (p : Pending) (reason : Reason) : Fault := ⟨p.start, p.lead, p.seen, reason⟩

/-- Decodes the bytes from offset `pos` on; `done` holds the characters before them, newest first. -/
def decodeFrom (done : Text) (pos : Nat) : Option Pending → Bytes → Except Fault Text
  | none, [] => .ok done.reverse
  | some p, [] => .error (p.fault .unexpectedEnd)
  | none, b :: bs =>
    if b < 0x80 then decodeFrom (Char.ofNat b.toNat :: done) (pos + 1) none bs
    else match Pending.ofLead? pos b with
      | none => .error ⟨pos, b, 1, .invalidStart⟩
      | some p => decodeFrom done (pos + 1) (some p) bs
  | some p, b :: bs =>
    if p.low ≤ b ∧ b ≤ p.high then
      let value := p.value * 64 + (b.toNat - 0x80)
      if p.missing ≤ 1 then decodeFrom (Char.ofNat value :: done) (pos + 1) none bs
      else decodeFrom done (pos + 1) (some ⟨p.start, p.lead, p.seen + 1, value, p.missing - 1, 0x80, 0xBF⟩) bs
    else .error (p.fault .invalidContinuation)

def decode (bytes : Bytes) : Except Fault Text := decodeFrom [] 0 none bytes

def encode (s : Text) : Bytes := s.flatMap String.utf8EncodeChar

def Reason.message : Reason → String
  | .invalidStart => "invalid start byte"
  | .invalidContinuation => "invalid continuation byte"
  | .unexpectedEnd => "unexpected end of data"

def hexByte (b : UInt8) : String :=
  String.ofList [Nat.digitChar (b.toNat / 16), Nat.digitChar (b.toNat % 16)]

def Fault.message (f : Fault) : String :=
  let place :=
    if f.length ≤ 1 then s!"byte 0x{hexByte f.lead} in position {f.start}"
    else s!"bytes in position {f.start}-{f.start + f.length - 1}"
  s!"'utf-8' codec can't decode {place}: {f.reason.message}"

example : decode [0x63, 0xC3, 0xA9] = .ok ['c', 'é'] := rfl
example : decode [0x61, 0xE2, 0x82] = .error ⟨1, 0xE2, 2, .unexpectedEnd⟩ := rfl

end Utf8
end JujuMigration
