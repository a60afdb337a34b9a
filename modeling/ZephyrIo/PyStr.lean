import ZephyrIo.Struct

/-!
# The `str` operations of the fixture parsers

The test harness's fixture parsers split a fixture string at `':'`, test its prefix, and
read a port with `int()`; `HttpClient` strips trailing slashes from its base URL. A Python
`str` is a sequence of code points, here a `String` read through its `toList`.

`int(s)` on a `str` (CPython's `PyLong_FromUnicodeObject`): the characters `str.isspace`
accepts around the literal, an optional sign, then decimal digits with single underscores
between them, at most `4300` digits (`sys.int_info.default_max_str_digits`); anything else
raises `ValueError`, here `none`. A digit is any character of Unicode's decimal digits
(`Py_UNICODE_TODECIMAL`), so `int('٤_٢')` is `42`; the table is that of Unicode 14.0, the
database of CPython 3.11. It reads back every integer `str()` writes
(`int_toString`).
-/

namespace ZephyrIo.PyStr

/-- `s.split(sep)`: the pieces between the separators, the empty ones included. -/
def split (s : String) (sep : Char) : List String := (s.toList.splitOn sep).map String.mk

/-- `s.startswith(prefix)`. -/
def startswith (s pre : String) : Bool := pre.toList.isPrefixOf s.toList

/-- `s.rstrip(c)` for a one-character argument. -/
def rstrip (s : String) (c : Char) : String := ⟨(s.toList.reverse.dropWhile (· == c)).reverse⟩

/-- The whitespace `int()` skips: the ASCII `' \t\n\v\f\r'` it tests directly, and the
non-ASCII characters of `str.isspace`, which it first turns into `' '`. -/
def isIntSpace (c : Char) : Bool :=
  c.toNat ∈ [9, 10, 11, 12, 13, 32, 0x85, 0xa0, 0x1680, 0x2028, 0x2029, 0x202f, 0x205f, 0x3000] ||
    (0x2000 ≤ c.toNat && c.toNat ≤ 0x200a)

/-- The code point of the zero of each run of ten decimal digits (general category `Nd`)
in Unicode 14.0; each run holds its digits in order. -/
def decimalZeros : List ℕ :=
  [0x30, 0x660, 0x6f0, 0x7c0, 0x966, 0x9e6, 0xa66, 0xae6, 0xb66, 0xbe6, 0xc66, 0xce6, 0xd66,
    0xde6, 0xe50, 0xed0, 0xf20, 0x1040, 0x1090, 0x17e0, 0x1810, 0x1946, 0x19d0, 0x1a80, 0x1a90,
    0x1b50, 0x1bb0, 0x1c40, 0x1c50, 0xa620, 0xa8d0, 0xa900, 0xa9d0, 0xa9f0, 0xaa50, 0xabf0,
    0xff10, 0x104a0, 0x10d30, 0x11066, 0x110f0, 0x11136, 0x111d0, 0x112f0, 0x11450, 0x114d0,
    0x11650, 0x116c0, 0x11730, 0x118e0, 0x11950, 0x11c50, 0x11d50, 0x11da0, 0x16a60, 0x16ac0,
    0x16b50, 0x1d7ce, 0x1d7d8, 0x1d7e2, 0x1d7ec, 0x1d7f6, 0x1e140, 0x1e2f0, 0x1e950, 0x1fbf0]

/-- `Py_UNICODE_TODECIMAL(c)`: the value of a decimal digit, `none` for any other
character. -/
def decimalValue (c : Char) : Option ℕ :=
  decimalZeros.findSome? fun z => if z ≤ c.toNat ∧ c.toNat < z + 10 then some (c.toNat - z) else none

/-- Whether `int()` reads the character as a digit. -/
def isDecimal (c : Char) : Bool := (decimalValue c).isSome

/-- The digits `long_from_string_base` accepts: decimal digits, with single underscores
between them. -/
def underscoredDigits (cs : List Char) : Bool :=
  cs.all (fun c => isDecimal c || c == '_') && cs.head?.any isDecimal &&
    cs.getLast?.any isDecimal && !(cs.zip cs.tail).any (fun p => p.1 == '_' && p.2 == '_')

/-- The value of a string of decimal digits. -/
def digitsValue (ds : List Char) : ℕ := ds.foldl (fun n c => 10 * n + (decimalValue c).getD 0) 0

/-- The literal without the whitespace around it. -/
def strip (cs : List Char) : List Char :=
  ((cs.dropWhile isIntSpace).reverse.dropWhile isIntSpace).reverse

/-- The sign in front of the digits, and the digits. -/
def sign : List Char → Bool × List Char
  | '-' :: ds => (true, ds)
  | '+' :: ds => (false, ds)
  | ds => (false, ds)

/-- `int(s)`; `none` where it raises `ValueError`. -/
def int (s : String) : Option ℤ :=
  let (negative, digits) := sign (strip s.toList)
  if underscoredDigits digits && (digits.filter isDecimal).length ≤ 4300 then
    some (if negative then -(digitsValue (digits.filter isDecimal) : ℤ)
      else digitsValue (digits.filter isDecimal))
  else none

example : int " -0_42\n" = some (-42) ∧ int "\u3000٤_٢" = some 42 ∧ int "1_٢" = some 12 := by
  decide
example : int "4__2" = none ∧ int "²" = none ∧ int "\x1c5" = none := by decide

/-! ### `split` -/

theorem split_append {xs : List Char} (h : ':' ∉ xs) (rest : List Char) :
    split ⟨xs ++ ':' :: rest⟩ ':' = ⟨xs⟩ :: split ⟨rest⟩ ':' := by
  simp only [split, String.toList]
  rw [List.splitOn, List.splitOnP_first _ xs
    (fun x hx he => h (by simpa using (beq_iff_eq.mp he) ▸ hx)) ':' (by simp) rest]
  rfl

theorem split_of_not_mem {xs : List Char} (h : ':' ∉ xs) : split ⟨xs⟩ ':' = [⟨xs⟩] := by
  simp only [split, String.toList]
  rw [List.splitOn, List.splitOnP_eq_single _ xs
    (fun x hx he => h (by simpa using (beq_iff_eq.mp he) ▸ hx))]
  rfl

theorem split_three {a b c : String} (ha : ':' ∉ a.toList) (hb : ':' ∉ b.toList)
    (hc : ':' ∉ c.toList) : split (a ++ ":" ++ b ++ ":" ++ c) ':' = [a, b, c] := by
  have h : a ++ ":" ++ b ++ ":" ++ c = ⟨a.toList ++ ':' :: (b.toList ++ ':' :: c.toList)⟩ := by
    apply String.ext
    simp
  rw [h, split_append ha, split_append hb, split_of_not_mem hc]
  rfl

theorem split_two {a b : String} (ha : ':' ∉ a.toList) (hb : ':' ∉ b.toList) :
    split (a ++ ":" ++ b) ':' = [a, b] := by
  have h : a ++ ":" ++ b = ⟨a.toList ++ ':' :: b.toList⟩ := by
    apply String.ext
    simp
  rw [h, split_append ha, split_of_not_mem hb]
  rfl

/-- A list holding a `':'` is what comes before its first `':'`, the `':'`, and the rest. -/
theorem eq_takeWhile_colon {xs : List Char} (h : ':' ∈ xs) :
    ∃ ys, xs = xs.takeWhile (· ≠ ':') ++ ':' :: ys ∧ ':' ∉ xs.takeWhile (· ≠ ':') := by
  induction xs with
  | nil => simp at h
  | cons x xs ih =>
    by_cases hx : x = ':'
    · subst hx
      exact ⟨xs, by simp, by simp⟩
    · have ht : (x :: xs).takeWhile (· ≠ ':') = x :: xs.takeWhile (· ≠ ':') :=
        List.takeWhile_cons_of_pos (by simpa using hx)
      obtain ⟨ys, hys, hn⟩ := ih (by simpa [Ne.symm hx] using h)
      rw [ht]
      exact ⟨ys, by rw [List.cons_append, ← hys], List.not_mem_cons_of_ne_of_not_mem (Ne.symm hx) hn⟩

theorem startswith_append (s t : String) : startswith (s ++ t) s = true := by
  simp [startswith, List.isPrefixOf_iff_prefix]

/-! ### `rstrip` -/

theorem rstrip_of_getLast? {s : String} {c : Char} (h : s.toList.getLast? ≠ some c) :
    rstrip s c = s := by
  rcases s with ⟨cs⟩
  rcases List.eq_nil_or_concat cs with rfl | ⟨L, b, rfl⟩
  · rfl
  · have hb : b ≠ c := fun hb => h (by simp [String.toList, hb])
    simp [rstrip, String.toList, hb]

/-! ### `int` reads back `str` -/

/-- The ten characters `Nat.toDigits 10` writes. -/
theorem digitChar_spec : ∀ k < 10, decimalValue (Nat.digitChar k) = some k ∧
    isIntSpace (Nat.digitChar k) = false ∧ Nat.digitChar k ≠ '-' ∧ Nat.digitChar k ≠ '+' ∧
    Nat.digitChar k ≠ '_' ∧ ':' ≠ Nat.digitChar k := by
  decide

theorem isDecimal_digitChar {k : ℕ} (hk : k < 10) : isDecimal (Nat.digitChar k) = true := by
  simp [isDecimal, (digitChar_spec k hk).1]

/-- The decimal digits of `n`, in front of `ds`. -/
theorem toDigitsCore_digits (f n : ℕ) (ds : List Char) (h : n < f) :
    ∃ L, Nat.toDigitsCore 10 f n ds = L ++ ds ∧ L ≠ [] ∧
      (∀ c ∈ L, ∃ k < 10, c = Nat.digitChar k) ∧ digitsValue L = n := by
  induction f generalizing n ds with
  | zero => omega
  | succ f ih =>
    have hk : (decimalValue (Nat.digitChar (n % 10))).getD 0 = n % 10 := by
      rw [(digitChar_spec (n % 10) (Nat.mod_lt _ (by omega))).1]
      rfl
    simp only [Nat.toDigitsCore]
    split_ifs with h0
    · refine ⟨[Nat.digitChar (n % 10)], rfl, by simp, by simpa using ⟨n % 10, Nat.mod_lt _ (by omega), rfl⟩,
        ?_⟩
      simp only [digitsValue, List.foldl_cons, List.foldl_nil, hk]
      omega
    · obtain ⟨L, hL, -, hdig, hval⟩ := ih (n / 10) (Nat.digitChar (n % 10) :: ds) (by omega)
      refine ⟨L ++ [Nat.digitChar (n % 10)], by rw [hL, List.append_assoc]; rfl, by simp, ?_, ?_⟩
      · simpa [or_imp, forall_and] using ⟨hdig, n % 10, Nat.mod_lt _ (by omega), rfl⟩
      · simp only [digitsValue, List.foldl_append, List.foldl_cons, List.foldl_nil] at hval ⊢
        rw [hval, hk]
        omega

/-- What `str(n)` writes for a natural number: nonempty, decimal digits only, and reading
back to `n`. -/
theorem toDigits_spec (n : ℕ) :
    (toString n).toList ≠ [] ∧ (∀ c ∈ (toString n).toList, ∃ k < 10, c = Nat.digitChar k) ∧
      digitsValue (toString n).toList = n := by
  obtain ⟨L, hL, hne, hdig, hval⟩ := toDigitsCore_digits (n + 1) n [] (by omega)
  have h : (toString n).toList = L := by
    rw [← List.append_nil L, ← hL]
    rfl
  rw [h]
  exact ⟨hne, hdig, hval⟩

theorem underscoredDigits_of_digits {L : List Char} (hne : L ≠ [])
    (hdig : ∀ c ∈ L, ∃ k < 10, c = Nat.digitChar k) : underscoredDigits L = true := by
  have hd : ∀ c ∈ L, isDecimal c = true ∧ c ≠ '_' := fun c hc => by
    obtain ⟨k, hk, rfl⟩ := hdig c hc
    exact ⟨isDecimal_digitChar hk, (digitChar_spec k hk).2.2.2.2.1⟩
  obtain ⟨a, as, rfl⟩ := List.exists_cons_of_ne_nil hne
  have hlast := hd _ (List.getLast_mem (List.cons_ne_nil a as))
  simp only [underscoredDigits, Bool.and_eq_true, List.all_eq_true, Bool.or_eq_true,
    List.head?_cons, Option.any_some, List.getLast?_eq_getLast _ (List.cons_ne_nil a as),
    Bool.not_eq_true', List.any_eq_false, beq_iff_eq, not_and]
  refine ⟨⟨⟨fun c hc => .inl (hd c hc).1, (hd a (List.mem_cons_self _ _)).1⟩, hlast.1⟩, ?_⟩
  intro p hp h₁
  exact absurd h₁ (hd p.1 (List.of_mem_zip hp).1).2

theorem strip_eq_self {cs : List Char} (h₁ : ∀ c ∈ cs.head?, isIntSpace c = false)
    (h₂ : ∀ c ∈ cs.getLast?, isIntSpace c = false) : strip cs = cs := by
  rcases List.eq_nil_or_concat cs with rfl | ⟨L, b, rfl⟩
  · rfl
  · have hb : isIntSpace b = false := h₂ b (by simp)
    have hd : (L ++ [b]).dropWhile isIntSpace = L ++ [b] := by
      rcases L with _ | ⟨a, as⟩
      · simp [hb]
      · simp [h₁ a (by simp)]
    simp [strip, hd, hb]

/-- A literal of digits, with or without a minus sign, as `int()` reads it. -/
theorem int_digits {L : List Char} (hne : L ≠ []) (hdig : ∀ c ∈ L, ∃ k < 10, c = Nat.digitChar k)
    (hlen : L.length ≤ 4300) :
    int ⟨L⟩ = some (digitsValue L) ∧ int ⟨'-' :: L⟩ = some (-(digitsValue L : ℤ)) := by
  obtain ⟨a, as, rfl⟩ := List.exists_cons_of_ne_nil hne
  have hns : ∀ c ∈ a :: as, isIntSpace c = false := fun c hc => by
    obtain ⟨k, hk, rfl⟩ := hdig c hc
    exact (digitChar_spec k hk).2.1
  have hlast : ∀ c ∈ (a :: as).getLast?, isIntSpace c = false := fun c hc =>
    hns c (List.mem_of_getLast?_eq_some hc)
  obtain ⟨k, hk, rfl⟩ := hdig a (List.mem_cons_self a as)
  obtain ⟨-, -, hm, hp, -⟩ := digitChar_spec k hk
  have hfil : (Nat.digitChar k :: as).filter isDecimal = Nat.digitChar k :: as :=
    List.filter_eq_self.mpr fun c hc => by
      obtain ⟨j, hj, rfl⟩ := hdig c hc
      exact isDecimal_digitChar hj
  have hsign : sign (Nat.digitChar k :: as) = (false, Nat.digitChar k :: as) := by
    unfold sign
    split <;> simp_all
  have hu := underscoredDigits_of_digits hne hdig
  constructor
  · simp only [int, String.toList, @strip_eq_self (Nat.digitChar k :: as)
      (by simpa using hns _ (List.mem_cons_self _ _)) hlast, hsign, hu, hfil, hlen]
    rfl
  · simp only [int, String.toList, @strip_eq_self ('-' :: Nat.digitChar k :: as)
      (by simp [isIntSpace]) (by simpa using hlast), sign, hu, hfil, hlen]
    rfl

/-- `int()` reads back what `str()` writes, for every integer of at most `4300` digits. -/
theorem int_toString (n : ℤ) (h : n.natAbs < 10 ^ 4300) : int (toString n) = some n := by
  rcases n with m | m
  · obtain ⟨hne, hdig, hval⟩ := toDigits_spec m
    have hi := (int_digits hne hdig (Nat.repr_length m 4300 (by norm_num) h)).1
    rw [hval] at hi
    exact hi
  · obtain ⟨hne, hdig, hval⟩ := toDigits_spec (m + 1)
    have hi := (int_digits hne hdig (Nat.repr_length (m + 1) 4300 (by norm_num) h)).2
    rw [hval] at hi
    exact hi

/-- The characters `str()` writes for an integer: a minus sign, then decimal digits, the
last one a digit. -/
theorem toString_chars (n : ℤ) :
    (∀ c ∈ (toString n).toList, c = '-' ∨ ∃ k < 10, c = Nat.digitChar k) ∧
      ∃ k < 10, (toString n).toList.getLast? = some (Nat.digitChar k) := by
  have hlast : ∀ m : ℕ, ∃ k < 10, (toString m).toList.getLast? = some (Nat.digitChar k) := by
    intro m
    obtain ⟨hne, hdig, -⟩ := toDigits_spec m
    obtain ⟨k, hk, hc⟩ := hdig _ (List.getLast_mem hne)
    exact ⟨k, hk, by rw [List.getLast?_eq_getLast _ hne, hc]⟩
  rcases n with m | m
  · exact ⟨fun c hc => .inr ((toDigits_spec m).2.1 c hc), hlast m⟩
  · have hs : (toString (Int.negSucc m)).toList = '-' :: (toString (m + 1)).toList := rfl
    obtain ⟨k, hk, hl⟩ := hlast (m + 1)
    refine ⟨fun c hc => ?_, k, hk, ?_⟩
    · rw [hs, List.mem_cons] at hc
      exact hc.imp id ((toDigits_spec (m + 1)).2.1 c)
    · rw [hs, List.getLast?_cons, hl]
      rfl

theorem colon_not_mem_toString (n : ℤ) : ':' ∉ (toString n).toList := fun h => by
  rcases (toString_chars n).1 ':' h with h | ⟨k, hk, h⟩
  · cases h
  · exact (digitChar_spec k hk).2.2.2.2.2 h

end ZephyrIo.PyStr
