import Mathlib.Algebra.Group.Int
import Mathlib.Algebra.Order.Ring.Nat
import Mathlib.Data.List.Basic
import Mathlib.Data.Nat.Digits

/-!
# C strings, and the string helpers the keyserver code calls

`keyserver.cpp` works on NUL-terminated byte strings, and leans on a handful of helpers from
GnuPG's common library (`gpg_strsep`, `trim_trailing_ws`, `ascii_strcasecmp`, `hextobyte`,
`bin2hex`) and from libc (`atoi`, `sscanf` with `%d`).  The helpers are not among the files this
development models; each is given here from its documented behaviour, one definition apiece, so
that the parsers built on top of them read like the C.

A C string is a `List Char`, one `Char` per byte and without its terminator.  Every consumer in
the keyserver code gets its strings from a line the transport has already cut at the first NUL,
so a list never carries one.

* `gpgStrsep` is `strsep`: the token before the first delimiter, and the rest after it, `none`
  once the last token has been taken; a non-NULL string always yields a token
  (`gpgStrsep_some`).
* `atoi` and `sscanfD` follow glibc with a `long` of `longBits` bits, 64 on LP64 and 32 on
  ILP32: `strtol` saturates at the `long` range and the result is then narrowed to `int`
  two's-complement-wise.  `atoi_lt` / `le_atoi` bound it on every width.
* `bin2hex` and `hex08` are the two hex encoders the request builder uses; their lengths are the
  lengths the request-size estimate charges for.
-/

namespace NeoPG

/-- A NUL-terminated C string: its bytes, one `Char` each, without the terminator. -/
abbrev CStr := List Char

/-! ## Tokens -/

/-- The token `gpg_strsep` takes from a non-NULL string: everything up to the first delimiter. -/
def strsepToken (delim s : CStr) : CStr := (s.span fun c => decide (c ∉ delim)).1

/-- What `gpg_strsep` leaves in `*stringp`: the bytes after the first delimiter, or NULL when
there is none. -/
def strsepRest (delim s : CStr) : Option CStr :=
  match (s.span fun c => decide (c ∉ delim)).2 with
  | [] => none
  | _ :: rest => some rest

/-- `gpg_strsep (&s, delim)`: the token and the new `*stringp`.  A NULL `*stringp` gives NULL. -/
def gpgStrsep (delim : CStr) : Option CStr → Option (CStr × Option CStr)
  | none => none
  | some s => some (strsepToken delim s, strsepRest delim s)

@[simp] lemma gpgStrsep_none (delim : CStr) : gpgStrsep delim none = none := rfl

@[simp] lemma gpgStrsep_some (delim s : CStr) :
    gpgStrsep delim (some s) = some (strsepToken delim s, strsepRest delim s) := rfl

/-- `trim_trailing_chars`' set for `trim_trailing_ws`: space, tab, CR and LF. -/
def isTrailingWs (c : Char) : Bool := c == ' ' || c == '\t' || c == '\r' || c == '\n'

/-- `trim_trailing_ws`: the string with its trailing spaces, tabs, CRs and LFs cut off. -/
def trimTrailingWs (s : CStr) : CStr := (s.reverse.dropWhile isTrailingWs).reverse

/-- `ascii_toupper`. -/
def asciiToupper (c : Char) : Char :=
  if 'a' ≤ c ∧ c ≤ 'z' then Char.ofNat (c.toNat - 32) else c

/-- `ascii_strcasecmp (a, b) == 0`: the strings agree up to ASCII case. -/
def asciiStrcasecmpEq (a b : CStr) : Bool := a.map asciiToupper == b.map asciiToupper

/-- `ascii_strncasecmp (a, b, n) == 0`: the first `n` bytes agree up to ASCII case. -/
def asciiStrncasecmpEq (a b : CStr) (n : Nat) : Bool := asciiStrcasecmpEq (a.take n) (b.take n)

lemma strsepToken_cons {delim : CStr} {c : Char} (hc : c ∉ delim) (s : CStr) :
    strsepToken delim (c :: s) = c :: strsepToken delim s := by
  simp [strsepToken, List.span_eq_take_drop, List.takeWhile_cons, hc]

/-- Trimming stops at the last byte that is no whitespace. -/
lemma trimTrailingWs_append_cons (l₁ : CStr) {c : Char} (hc : isTrailingWs c = false)
    (l₂ : CStr) : trimTrailingWs (l₁ ++ c :: l₂) = l₁ ++ c :: trimTrailingWs l₂ := by
  unfold trimTrailingWs
  rw [List.reverse_append, List.reverse_cons, List.append_assoc, List.dropWhile_append]
  split
  · next h => simp [List.isEmpty_iff.mp h, List.dropWhile_cons, hc]
  · simp

/-! ## Colon-separated fields

The keyserver's lines are colon-separated fields, and the parsers take them one
`gpg_strsep (&s, ":")` call at a time.  `colonFields` is what the calls hand out, one after
another until `s` is NULL: the fields of `s` split at every colon (`splitOn_colon`).
`joinFields` puts fields back together, and the two are inverse (`joinFields_colonFields`,
`colonFields_joinFields`), so a parser can be read as a function of the list of fields.
-/

/-- The fields `gpg_strsep (&s, ":")` hands out from `s` on, one per call until `s` is NULL. -/
def colonFields : Option CStr → List CStr
  | none => []
  | some s => s.splitOn ':'

/-- The string the fields `fs` are cut from; NULL for no field. -/
def joinFields : List CStr → Option CStr
  | [] => none
  | f :: fs => some ([':'].intercalate (f :: fs))

@[simp] lemma joinFields_nil : joinFields [] = none := rfl

lemma strsepToken_delim {delim : CStr} {c : Char} (hc : c ∈ delim) (s : CStr) :
    strsepToken delim (c :: s) = [] := by
  simp [strsepToken, hc]

lemma strsepRest_delim {delim : CStr} {c : Char} (hc : c ∈ delim) (s : CStr) :
    strsepRest delim (c :: s) = some s := by
  simp [strsepRest, hc]

lemma strsepRest_cons {delim : CStr} {c : Char} (hc : c ∉ delim) (s : CStr) :
    strsepRest delim (c :: s) = strsepRest delim s := by
  simp [strsepRest, List.span_eq_take_drop, List.dropWhile_cons, hc]

/-- The first call hands out the first field, and leaves the others. -/
lemma splitOn_colon : ∀ s : CStr,
    s.splitOn ':' = strsepToken [':'] s :: colonFields (strsepRest [':'] s)
  | [] => rfl
  | c :: s => by
    by_cases hc : c = ':'
    · subst hc
      simp [strsepToken_delim, strsepRest_delim, colonFields, List.splitOn]
    · have hc' : c ∉ [':'] := by simpa using hc
      have ih := splitOn_colon s
      simp only [List.splitOn] at ih ⊢
      rw [List.splitOnP_cons, if_neg (by simpa using hc), ih, strsepToken_cons hc',
        strsepRest_cons hc']
      rfl

lemma colonFields_ne_nil (s : CStr) : colonFields (some s) ≠ [] := by
  rw [colonFields, splitOn_colon]
  exact List.cons_ne_nil _ _

/-- No field holds a colon. -/
lemma colon_not_mem_of_mem_splitOn : ∀ {s f : CStr}, f ∈ s.splitOn ':' → ':' ∉ f
  | [], f, h => by simp_all
  | c :: s, f, h => by
    rw [splitOn_colon] at h
    by_cases hc : c = ':'
    · subst hc
      rw [strsepToken_delim (by simp), strsepRest_delim (by simp)] at h
      rcases List.mem_cons.mp h with rfl | h
      · simp
      · exact colon_not_mem_of_mem_splitOn h
    · have hc' : c ∉ [':'] := by simpa using hc
      rw [strsepToken_cons hc', strsepRest_cons hc'] at h
      have htail : ∀ {f}, f ∈ s.splitOn ':' → ':' ∉ f := colon_not_mem_of_mem_splitOn
      rw [splitOn_colon] at htail
      rcases List.mem_cons.mp h with rfl | h
      · simpa [Ne.symm hc] using htail (List.mem_cons_self _ _)
      · exact htail (List.mem_cons_of_mem _ h)

lemma colon_not_mem_of_mem_colonFields {r : Option CStr} {f : CStr} (h : f ∈ colonFields r) :
    ':' ∉ f := by
  cases r with
  | none => cases h
  | some s => exact colon_not_mem_of_mem_splitOn h

lemma joinFields_colonFields : ∀ r : Option CStr, joinFields (colonFields r) = r
  | none => rfl
  | some s => by
    have h := List.intercalate_splitOn s ':'
    revert h
    rcases hs : s.splitOn ':' with _ | ⟨f, fs⟩
    · exact absurd hs (colonFields_ne_nil s)
    · intro h
      simp only [colonFields, hs, joinFields, h]

lemma colonFields_joinFields : ∀ {fs : List CStr}, (∀ f ∈ fs, ':' ∉ f) →
    colonFields (joinFields fs) = fs
  | [], _ => rfl
  | _ :: _, h => List.splitOn_intercalate _ ':' h (List.cons_ne_nil _ _)

/-- `gpg_strsep` on fields without colons hands out the first. -/
lemma gpgStrsep_joinFields {tok : CStr} {fs : List CStr} (h : ∀ f ∈ tok :: fs, ':' ∉ f) :
    gpgStrsep [':'] (joinFields (tok :: fs)) = some (tok, joinFields fs) := by
  obtain ⟨s, hs⟩ : ∃ s, joinFields (tok :: fs) = some s := ⟨_, rfl⟩
  have hsplit := colonFields_joinFields h
  rw [hs, colonFields, splitOn_colon, List.cons.injEq] at hsplit
  rw [hs, gpgStrsep_some, hsplit.1, ← hsplit.2, joinFields_colonFields]

lemma length_eq_of_asciiStrcasecmpEq {a b : CStr} (h : asciiStrcasecmpEq a b) :
    a.length = b.length := by
  simpa using congrArg List.length (beq_iff_eq.mp h)

/-! ## Numbers -/

/-- `isspace` in the C locale. -/
def isCSpace (c : Char) : Bool :=
  c == ' ' || c == '\t' || c == '\n' || c == '\x0b' || c == '\x0c' || c == '\r'

/-- The value of the decimal digits at the head of `s` (zero when there are none). -/
def decimalPrefix (s : CStr) : Nat :=
  (s.takeWhile Char.isDigit).foldl (fun n c => 10 * n + (c.toNat - 48)) 0

/-- `strtol (s, NULL, 10)` with a `long` of `longBits` bits: blanks, an optional sign, digits;
a value out of the `long` range saturates at `LONG_MIN` or `LONG_MAX`. -/
def strtol (longBits : Nat) (s : CStr) : Int :=
  let v : Int :=
    match s.dropWhile isCSpace with
    | '-' :: r => -(decimalPrefix r : Int)
    | '+' :: r => decimalPrefix r
    | r => decimalPrefix r
  max (-2 ^ (longBits - 1)) (min v (2 ^ (longBits - 1) - 1))

/-- Narrowing to `int`, modulo `2^32` as gcc does it. -/
def toInt32 (v : Int) : Int := (v + 2 ^ 31) % 2 ^ 32 - 2 ^ 31

/-- `atoi`: `(int) strtol (s, NULL, 10)`. -/
def atoi (longBits : Nat) (s : CStr) : Int := toInt32 (strtol longBits s)

/-- `sscanf (s, "%d", &v)`: `some v` when it converts (a digit after the blanks and the sign),
with glibc's value, which is `atoi`'s. -/
def sscanfD (longBits : Nat) (s : CStr) : Option Int :=
  let body :=
    match s.dropWhile isCSpace with
    | '-' :: r => r
    | '+' :: r => r
    | r => r
  if (body.head?.map Char.isDigit).getD false then some (atoi longBits s) else none

lemma le_toInt32 (v : Int) : -2 ^ 31 ≤ toInt32 v := by
  unfold toInt32
  have := Int.emod_nonneg (v + 2 ^ 31) (by decide : (2 : Int) ^ 32 ≠ 0)
  omega

lemma toInt32_lt (v : Int) : toInt32 v < 2 ^ 31 := by
  unfold toInt32
  have := Int.emod_lt_of_pos (v + 2 ^ 31) (by decide : (0 : Int) < 2 ^ 32)
  omega

/-- Every `atoi` value is an `int`. -/
lemma atoi_lt (longBits : Nat) (s : CStr) : atoi longBits s < 2 ^ 31 := toInt32_lt _

lemma le_atoi (longBits : Nat) (s : CStr) : -2 ^ 31 ≤ atoi longBits s := le_toInt32 _

/-! ### Reading back a decimal number -/

lemma digitChar_ten : ∀ k < 10, (Nat.digitChar k).isDigit ∧ (Nat.digitChar k).toNat - 48 = k := by
  decide

/-- With fuel to spare, `toDigitsCore` puts the decimal digits of `n` in front of `ds`; read from
`0` as `decimalPrefix` reads them, they give `n`. -/
lemma toDigitsCore_ten : ∀ (fuel n : Nat) (ds : List Char), n < fuel →
    ∃ D, Nat.toDigitsCore 10 fuel n ds = D ++ ds ∧ D ≠ [] ∧ (∀ c ∈ D, c.isDigit) ∧
      D.foldl (fun n c => 10 * n + (c.toNat - 48)) 0 = n
  | 0, _, _, h => absurd h (Nat.not_lt_zero _)
  | fuel + 1, n, ds, h => by
    obtain ⟨hd, hv⟩ := digitChar_ten (n % 10) (Nat.mod_lt _ (by decide))
    simp only [Nat.toDigitsCore]
    split_ifs with h0
    · -- the last digit
      exact ⟨[Nat.digitChar (n % 10)], rfl, List.cons_ne_nil _ _, by simpa using hd,
        by simp only [List.foldl_cons, List.foldl_nil, hv]; omega⟩
    · -- the digits of `n / 10`, then this one
      obtain ⟨D, hD, hne, hdig, hval⟩ :=
        toDigitsCore_ten fuel (n / 10) (Nat.digitChar (n % 10) :: ds) (by omega)
      refine ⟨D ++ [Nat.digitChar (n % 10)], by simp [hD], by simp, ?_, ?_⟩
      · simpa [or_imp, forall_and] using ⟨hdig, hd⟩
      · rw [List.foldl_append, hval, List.foldl_cons, List.foldl_nil, hv]
        omega

lemma isCSpace_of_isDigit {c : Char} (h : c.isDigit) : isCSpace c = false := by
  cases hs : isCSpace c
  · rfl
  · simp only [isCSpace, Bool.or_eq_true, beq_iff_eq] at hs
    rcases hs with ((((rfl | rfl) | rfl) | rfl) | rfl) | rfl <;> exact absurd h (by decide)

/-- `atoi` reads back the decimal digits of every `t`, saturated at `LONG_MAX` and narrowed to
`int`. -/
lemma atoi_toDigits (longBits t : Nat) :
    atoi longBits (Nat.toDigits 10 t) = toInt32 (min t (2 ^ (longBits - 1) - 1)) := by
  obtain ⟨D, hD, hne, hdig, hval⟩ := toDigitsCore_ten (t + 1) t [] (Nat.lt_succ_self t)
  obtain ⟨c, D', rfl⟩ := List.exists_cons_of_ne_nil hne
  have hc := hdig c (List.mem_cons_self _ _)
  have hsign : c ≠ '-' ∧ c ≠ '+' := ⟨fun h => absurd (h ▸ hc) (by decide),
    fun h => absurd (h ▸ hc) (by decide)⟩
  have hdecimal : decimalPrefix (c :: D') = t := by
    rw [decimalPrefix, List.takeWhile_eq_self_iff.mpr hdig, hval]
  rw [Nat.toDigits, hD, List.append_nil, atoi, strtol,
    List.dropWhile_cons_of_neg (by simp [isCSpace_of_isDigit hc])]
  split
  · next _ h => exact absurd (List.cons.inj h).1 hsign.1
  · next _ h => exact absurd (List.cons.inj h).1 hsign.2
  · rw [hdecimal]
    have hpos : (0 : Int) < 2 ^ (longBits - 1) := by positivity
    generalize (2 : Int) ^ (longBits - 1) = m at hpos ⊢
    congr 1
    omega

/-- What `sscanf` stores is an `int`. -/
lemma sscanfD_lt {longBits : Nat} {s : CStr} {v : Int} (h : sscanfD longBits s = some v) :
    -2 ^ 31 ≤ v ∧ v < 2 ^ 31 := by
  unfold sscanfD at h
  dsimp only at h
  split at h
  · cases h
    exact ⟨le_atoi longBits s, atoi_lt longBits s⟩
  · cases h

/-- `hextobyte`'s digit values, `none` for a byte that is no hex digit. -/
def hexValue (c : Char) : Option Nat :=
  if '0' ≤ c ∧ c ≤ '9' then some (c.toNat - 48)
  else if 'A' ≤ c ∧ c ≤ 'F' then some (c.toNat - 55)
  else if 'a' ≤ c ∧ c ≤ 'f' then some (c.toNat - 87)
  else none

/-- `hextobyte`: the byte two hex digits denote; `none` stands for the C's `-1`. -/
def hextobyte (hi lo : Char) : Option Nat :=
  (hexValue hi).bind fun h => (hexValue lo).map fun l => 16 * h + l

/-! ## Hex encoders -/

/-- One uppercase hex digit. -/
def hexDigit (n : Nat) : Char := if n < 10 then Char.ofNat (48 + n) else Char.ofNat (55 + n)

/-- `bin2hex`: two uppercase hex digits per byte. -/
def bin2hex (bytes : List UInt8) : CStr :=
  bytes.flatMap fun b => [hexDigit (b.toNat / 16), hexDigit (b.toNat % 16)]

/-- `printf ("%08lX", x)` for a `u32`: eight uppercase hex digits, most significant first. -/
def hex08 (x : UInt32) : CStr :=
  (List.range 8).reverse.map fun i => hexDigit (x.toNat / 16 ^ i % 16)

@[simp] lemma length_bin2hex (bytes : List UInt8) : (bin2hex bytes).length = 2 * bytes.length := by
  induction bytes with
  | nil => rfl
  | cons b bs ih =>
    simp only [bin2hex, List.flatMap_cons, List.length_append, List.length_cons,
      List.length_nil] at ih ⊢
    rw [ih]
    omega

@[simp] lemma length_hex08 (x : UInt32) : (hex08 x).length = 8 := by simp [hex08]

end NeoPG
