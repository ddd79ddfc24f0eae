/-!
# Base 64

The standard alphabet with padding. `decode_encode` says that every sequence of bytes reads back from its text.
-/

namespace MultiCluster.Text.Base64

/-- The symbol of a value below 64. -/
def symbol (n : Nat) : Char :=
  if n < 26 then Char.ofNat (n + 65)
  else if n < 52 then Char.ofNat (n + 71)
  else if n < 62 then Char.ofNat (n - 4)
  else if n = 62 then '+'
  else '/'

/-- The value of a symbol. -/
def value? (c : Char) : Option Nat :=
  if c.isUpper then some (c.toNat - 65)
  else if c.isLower then some (c.toNat - 71)
  else if c.isDigit then some (c.toNat + 4)
  else if c = '+' then some 62
  else if c = '/' then some 63
  else none

/-- The text of a sequence of bytes. -/
def encode : List UInt8 → List Char
  | [] => []
  | [a] => [symbol (a.toNat / 4), symbol (a.toNat % 4 * 16), '=', '=']
  | [a, b] =>
    [symbol (a.toNat / 4), symbol (a.toNat % 4 * 16 + b.toNat / 16), symbol (b.toNat % 16 * 4), '=']
  | a :: b :: c :: rest =>
    symbol (a.toNat / 4) :: symbol (a.toNat % 4 * 16 + b.toNat / 16) ::
      symbol (b.toNat % 16 * 4 + c.toNat / 64) :: symbol (c.toNat % 64) :: encode rest

/-- The bytes of a text. Padding is required, and the bits it leaves over must be zero. -/
def decode : List Char → Option (List UInt8)
  | [] => some []
  | [w, x, '=', '='] => do
    let w ← value? w
    let x ← value? x
    if x % 16 = 0 then some [UInt8.ofNat (w * 4 + x / 16)] else none
  | [w, x, y, '='] => do
    let w ← value? w
    let x ← value? x
    let y ← value? y
    if y % 4 = 0 then
      some [UInt8.ofNat (w * 4 + x / 16), UInt8.ofNat (x % 16 * 16 + y / 4)]
    else none
  | w :: x :: y :: z :: rest => do
    let w ← value? w
    let x ← value? x
    let y ← value? y
    let z ← value? z
    let bytes ← decode rest
    some (UInt8.ofNat (w * 4 + x / 16) :: UInt8.ofNat (x % 16 * 16 + y / 4) ::
      UInt8.ofNat (y % 4 * 64 + z) :: bytes)
  | _ => none

/-- Every value below 64 reads back from its symbol. -/
private theorem value?_symbol : ∀ n, n < 64 → value? (symbol n) = some n := by
  decide

/-- No symbol is the padding. -/
private theorem symbol_ne_padding : ∀ n, n < 64 → symbol n ≠ '=' := by
  decide

private theorem decode_full_group {w x y z : Nat} (hw : w < 64) (hx : x < 64) (hy : y < 64) (hz : z < 64)
    (rest : List Char) :
    decode (symbol w :: symbol x :: symbol y :: symbol z :: rest) =
      (decode rest).map fun bytes =>
        UInt8.ofNat (w * 4 + x / 16) :: UInt8.ofNat (x % 16 * 16 + y / 4) :: UInt8.ofNat (y % 4 * 64 + z) ::
          bytes := by
  have hne := symbol_ne_padding z hz
  rw [decode]
  · rw [value?_symbol w hw, value?_symbol x hx, value?_symbol y hy, value?_symbol z hz]
    cases decode rest <;> rfl
  · exact fun _ h _ => hne h
  · exact fun h _ => hne h

private theorem decode_two_bytes {w x y : Nat} (hw : w < 64) (hx : x < 64) (hy : y < 64) (h0 : y % 4 = 0) :
    decode [symbol w, symbol x, symbol y, '='] =
      some [UInt8.ofNat (w * 4 + x / 16), UInt8.ofNat (x % 16 * 16 + y / 4)] := by
  have hne := symbol_ne_padding y hy
  rw [decode]
  · rw [value?_symbol w hw, value?_symbol x hx, value?_symbol y hy]
    simp [h0]
  · exact hne

private theorem decode_one_byte {w x : Nat} (hw : w < 64) (hx : x < 64) (h0 : x % 16 = 0) :
    decode [symbol w, symbol x, '=', '='] = some [UInt8.ofNat (w * 4 + x / 16)] := by
  rw [decode, value?_symbol w hw, value?_symbol x hx]
  simp [h0]

/-- A byte is the number that its bits make up. -/
private theorem ofNat_eq_of_toNat {n : Nat} {a : UInt8} (h : n = a.toNat) : UInt8.ofNat n = a := by
  subst h
  exact UInt8.ofNat_toNat

/-- Every sequence of bytes reads back from its text. -/
theorem decode_encode (bytes : List UInt8) : decode (encode bytes) = some bytes := by
  fun_induction encode bytes with
  | case1 => rfl
  | case2 a =>
    have ha := a.toNat_lt
    rw [decode_one_byte (by omega) (by omega) (by omega), ofNat_eq_of_toNat (a := a) (by omega)]
  | case3 a b =>
    have ha := a.toNat_lt
    have hb := b.toNat_lt
    rw [decode_two_bytes (by omega) (by omega) (by omega) (by omega),
      ofNat_eq_of_toNat (a := a) (by omega), ofNat_eq_of_toNat (a := b) (by omega)]
  | case4 a b c rest ih =>
    have ha := a.toNat_lt
    have hb := b.toNat_lt
    have hc := c.toNat_lt
    rw [decode_full_group (by omega) (by omega) (by omega) (by omega), ih,
      ofNat_eq_of_toNat (a := a) (by omega), ofNat_eq_of_toNat (a := b) (by omega),
      ofNat_eq_of_toNat (a := c) (by omega)]
    rfl

end MultiCluster.Text.Base64
