import Qri.Go.Basic

/-!
Go's `encoding/base64` with `StdEncoding`: the RFC 4648 alphabet, `=` padding,
not strict. The log sync's author header carries a public key through its
`EncodeToString` and `DecodeString` (`logbook/logsync/http.go`,
`addAuthorHTTPHeaders` and `senderFromHTTPHeaders`).

`Encode` writes four characters for each three bytes and pads the last group.
`Decode` runs `decodeQuantum` until the input is used up: four alphabet
characters make three bytes, `\n` and `\r` are skipped, padding ends the input,
and any other character is a `CorruptInputError` at its offset. Its fast paths
(`assemble64`, `assemble32`) take eight or four alphabet characters at once and
fall back to `decodeQuantum` on anything else, with the same result, so the
model is the quantum loop alone, read one character at a time (`decodeLoop`).
`DecodeString` also returns the bytes decoded before an error; its callers here
drop them, and the model keeps only the error.

The round trip `decodeString_encodeToString` is proved one group of three bytes
at a time: the group's four characters are the base-64 digits of its 24 bits
(`decodeMap_encodeChar`), and the decoder puts them back together
(`quantumBytes_digits`).
-/

set_option autoImplicit false

namespace Qri

namespace Go

namespace Base64

/-! ## The encoding -/

/-- `encodeStd`, the alphabet of `StdEncoding`. -/
def encodeStd : GoString :=
  .ofString "ABCDEFGHIJKLMNOPQRSTUVWXYZabcdefghijklmnopqrstuvwxyz0123456789+/"

/-- `StdPadding`, the byte `'='`. -/
def padChar : UInt8 := 0x3D

/-- `enc.encode[v]`. -/
def encodeChar (v : Nat) : UInt8 := encodeStd.getD v 0

/-- The four characters of a group whose bits are `val`: `val>>18&0x3F`,
`val>>12&0x3F`, `val>>6&0x3F` and `val&0x3F` through the alphabet. -/
def encodeGroup (val : Nat) : GoString :=
  [encodeChar (val / 2 ^ 18 % 64), encodeChar (val / 2 ^ 12 % 64), encodeChar (val / 2 ^ 6 % 64),
    encodeChar (val % 64)]

/-- `EncodeToString`. A group's `val` is the `|` of its shifted bytes, whose bits
do not overlap; the last group of one or two bytes is padded. -/
def encodeToString : GoString → GoString
  | b0 :: b1 :: b2 :: rest =>
    encodeGroup (b0.toNat * 2 ^ 16 + b1.toNat * 2 ^ 8 + b2.toNat) ++ encodeToString rest
  | [b0, b1] => (encodeGroup (b0.toNat * 2 ^ 16 + b1.toNat * 2 ^ 8)).take 3 ++ [padChar]
  | [b0] => (encodeGroup (b0.toNat * 2 ^ 16)).take 2 ++ [padChar, padChar]
  | [] => []

/-! ## The decoding -/

/-- `enc.decodeMap[c]`: the index of `c` in the alphabet, `none` where the map
holds `0xFF`. -/
def decodeMap (c : UInt8) : Option Nat := encodeStd.indexOf? c

/-- `'\n'` and `'\r'`, which the decoder skips. -/
def isNewline (c : UInt8) : Bool := c == 0x0A || c == 0x0D

/-- The end of `decodeQuantum`: the values read, `dlen` of them with the missing
ones zero, put together into `val`, of whose bytes `val>>16`, `val>>8`, `val`
the first `dlen - 1` are written. -/
def quantumBytes (dbuf : List Nat) : GoString :=
  let val := dbuf.getD 0 0 * 2 ^ 18 + dbuf.getD 1 0 * 2 ^ 12 + dbuf.getD 2 0 * 2 ^ 6 + dbuf.getD 3 0
  [UInt8.ofNat (val / 2 ^ 16), UInt8.ofNat (val / 2 ^ 8), UInt8.ofNat val].take (dbuf.length - 1)

/-- `decodeQuantum` after a `'='`: `dbuf` the values read before it, `src` the
input after it from offset `si`, `n` the input's length. After two values a
second `'='` must follow, newlines aside; then only newlines may. -/
def padding (n : Nat) (dbuf : List Nat) (si : Nat) (src : GoString) : Except Nat GoString :=
  if dbuf.length < 2 then .error (si - 1)
  else
    let second : Except Nat (Nat × GoString) :=
      if dbuf.length = 2 then
        let src' := src.dropWhile isNewline
        let si' := si + (src.length - src'.length)
        match src' with
        | [] => .error n
        | c :: rest => if c ≠ padChar then .error (si' - 1) else .ok (si' + 1, rest)
      else .ok (si, src)
    second.bind fun (si, src) =>
      let src' := src.dropWhile isNewline
      if src' ≠ [] then .error (si + (src.length - src'.length)) else .ok (quantumBytes dbuf)

/-- `Decode`, one character at a time: `src` is the input from offset `si` on,
`dbuf` the values of the current quantum read so far and `n` the input's length.
The error is the offset `CorruptInputError` carries. -/
def decodeLoop (n : Nat) : List Nat → Nat → GoString → Except Nat GoString
  | dbuf, si, [] => if dbuf.length = 0 then .ok [] else .error (si - dbuf.length)
  | dbuf, si, c :: src =>
    match decodeMap c with
    | some v =>
      if dbuf.length = 3 then (quantumBytes (dbuf ++ [v]) ++ ·) <$> decodeLoop n [] (si + 1) src
      else decodeLoop n (dbuf ++ [v]) (si + 1) src
    | none =>
      if isNewline c then decodeLoop n dbuf (si + 1) src
      else if c ≠ padChar then .error si
      else padding n dbuf (si + 1) src

/-- `CorruptInputError.Error()`. -/
def corruptInputError (offset : Nat) : String :=
  "illegal base64 data at input byte " ++ toString offset

/-- `DecodeString`, by its error, or the bytes when there is none. -/
def decodeString (s : GoString) : Except String GoString :=
  (decodeLoop s.length [] 0 s).mapError corruptInputError

/-! ## The round trip -/

/-- Each character of the alphabet decodes to its index. -/
theorem decodeMap_encodeChar : ∀ v < 64, decodeMap (encodeChar v) = some v := by
  decide

theorem toNat_ofNat (n : Nat) : (UInt8.ofNat n).toNat = n % 256 := BitVec.toNat_ofNat _ _

/-- The bytes of a group are recovered from its four digits. -/
theorem quantumBytes_digits (val : Nat) (hval : val < 2 ^ 24) :
    quantumBytes [val / 2 ^ 18 % 64, val / 2 ^ 12 % 64, val / 2 ^ 6 % 64, val % 64] =
      [UInt8.ofNat (val / 2 ^ 16), UInt8.ofNat (val / 2 ^ 8), UInt8.ofNat val] := by
  have hval' : val / 2 ^ 18 % 64 * 2 ^ 18 + val / 2 ^ 12 % 64 * 2 ^ 12 + val / 2 ^ 6 % 64 * 2 ^ 6 +
      val % 64 = val := by omega
  simp only [quantumBytes, List.getD_cons_succ, List.getD_cons_zero, hval', List.length_cons,
    List.length_nil]
  rfl

/-- A full group's bytes. -/
theorem bytes_full (b0 b1 b2 : UInt8) :
    [UInt8.ofNat ((b0.toNat * 2 ^ 16 + b1.toNat * 2 ^ 8 + b2.toNat) / 2 ^ 16),
      UInt8.ofNat ((b0.toNat * 2 ^ 16 + b1.toNat * 2 ^ 8 + b2.toNat) / 2 ^ 8),
      UInt8.ofNat (b0.toNat * 2 ^ 16 + b1.toNat * 2 ^ 8 + b2.toNat)] = [b0, b1, b2] := by
  have h0 : b0.toNat < 256 := b0.toNat_lt_size
  have h1 : b1.toNat < 256 := b1.toNat_lt_size
  have h2 : b2.toNat < 256 := b2.toNat_lt_size
  simp only [List.cons.injEq, and_true]
  refine ⟨UInt8.toNat.inj ?_, UInt8.toNat.inj ?_, UInt8.toNat.inj ?_⟩ <;> rw [toNat_ofNat] <;> omega

theorem ofNat_eq_of_mod {b : UInt8} {n : Nat} (h : n % 256 = b.toNat) : UInt8.ofNat n = b :=
  UInt8.toNat.inj (by rw [toNat_ofNat, h])

/-- One alphabet character: its value joins the quantum, which closes at four. -/
theorem decodeLoop_digit (n si : Nat) (dbuf : List Nat) {c : UInt8} {v : Nat}
    (hc : decodeMap c = some v) (src : GoString) :
    decodeLoop n dbuf si (c :: src) =
      if dbuf.length = 3 then (quantumBytes (dbuf ++ [v]) ++ ·) <$> decodeLoop n [] (si + 1) src
      else decodeLoop n (dbuf ++ [v]) (si + 1) src := by
  simp only [decodeLoop, hc]

/-- A `'='` hands the rest of the input to `padding`. -/
theorem decodeLoop_padChar (n si : Nat) (dbuf : List Nat) (src : GoString) :
    decodeLoop n dbuf si (padChar :: src) = padding n dbuf (si + 1) src := by
  have hmap : decodeMap padChar = none := by decide
  have hnl : isNewline padChar = false := by decide
  simp only [decodeLoop, hmap, hnl, ne_eq, not_true_eq_false, if_false]
  rfl

/-- After three values, a final `'='` closes the input. -/
theorem padding_three (n si : Nat) (dbuf : List Nat) (h : dbuf.length = 3) :
    padding n dbuf si [] = .ok (quantumBytes dbuf) := by
  simp only [padding, h]
  rfl

/-- After two values, a final `"=="` closes the input. -/
theorem padding_two (n si : Nat) (dbuf : List Nat) (h : dbuf.length = 2) :
    padding n dbuf si [padChar] = .ok (quantumBytes dbuf) := by
  simp only [padding, h]
  rfl

theorem decodeMap_encodeChar_mod (v : Nat) : decodeMap (encodeChar (v % 64)) = some (v % 64) :=
  decodeMap_encodeChar _ (Nat.mod_lt _ (by decide))

/-- The four characters of a group are read as its four digits, and the quantum
they close is decoded. -/
theorem decodeLoop_encodeGroup (n si val : Nat) (rest : GoString) :
    decodeLoop n [] si (encodeGroup val ++ rest) =
      (quantumBytes [val / 2 ^ 18 % 64, val / 2 ^ 12 % 64, val / 2 ^ 6 % 64, val % 64] ++ ·) <$>
        decodeLoop n [] (si + 4) rest := by
  simp only [encodeGroup, List.cons_append, List.nil_append,
    decodeLoop_digit _ _ _ (decodeMap_encodeChar_mod _), List.length_nil, List.length_cons,
    List.singleton_append, Nat.reduceAdd, Nat.reduceEqDiff, if_false, if_true]

/-- **`DecodeString` inverts `EncodeToString`**, from any offset. -/
theorem decodeLoop_encodeToString (n : Nat) (bs : GoString) :
    ∀ si, decodeLoop n [] si (encodeToString bs) = .ok bs := by
  induction bs using encodeToString.induct with
  | case1 b0 b1 b2 rest ih =>
    intro si
    have h : b0.toNat * 2 ^ 16 + b1.toNat * 2 ^ 8 + b2.toNat < 2 ^ 24 := by
      have : b0.toNat < 256 := b0.toNat_lt_size
      have : b1.toNat < 256 := b1.toNat_lt_size
      have : b2.toNat < 256 := b2.toNat_lt_size
      omega
    rw [encodeToString, decodeLoop_encodeGroup, ih, quantumBytes_digits _ h, bytes_full]
    rfl
  | case2 b0 b1 =>
    intro si
    have h0 : b0.toNat < 256 := b0.toNat_lt_size
    have h1 : b1.toNat < 256 := b1.toNat_lt_size
    simp only [encodeToString, encodeGroup, List.take, List.cons_append, List.nil_append,
      decodeLoop_digit _ _ _ (decodeMap_encodeChar_mod _), List.length_nil, List.length_cons,
      List.singleton_append, Nat.reduceAdd, Nat.reduceEqDiff, if_false, decodeLoop_padChar,
      padding_three, quantumBytes, List.getD_cons_zero, List.getD_cons_succ,
      List.getD_nil, Nat.add_one_sub_one, Except.ok.injEq, List.cons.injEq, and_true]
    exact ⟨ofNat_eq_of_mod (by omega), ofNat_eq_of_mod (by omega)⟩
  | case3 b0 =>
    intro si
    have h0 : b0.toNat < 256 := b0.toNat_lt_size
    simp only [encodeToString, encodeGroup, List.take, List.cons_append, List.nil_append,
      decodeLoop_digit _ _ _ (decodeMap_encodeChar_mod _), List.length_nil, List.length_cons,
      List.singleton_append, Nat.reduceAdd, Nat.reduceEqDiff, if_false, decodeLoop_padChar,
      padding_two, quantumBytes, List.getD_cons_zero, List.getD_cons_succ,
      List.getD_nil, Nat.add_one_sub_one, Except.ok.injEq, List.cons.injEq, and_true]
    exact ofNat_eq_of_mod (by omega)
  | case4 => intro si; rfl

/-- **`DecodeString` inverts `EncodeToString`.** -/
theorem decodeString_encodeToString (bs : GoString) : decodeString (encodeToString bs) = .ok bs := by
  rw [decodeString, decodeLoop_encodeToString]
  rfl

end Base64

end Go

end Qri
