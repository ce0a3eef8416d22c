import NeoPG.Search.Keyrec

/-!
# The fields of a `pub:` line

`parse_keyrec` reads a line one `gpg_strsep (&keystring, ":")` call at a time, and a `pub:`
line's fields after the key are all optional: the first one missing ends the line.  Read through
`colonFields`, a line is the list of its fields (`lineFields`), and the `pub:` branch is a
function of that list.  `pubRecord` states it as the search-result format describes the line:
algorithm, size, creation and expiry time from fields 3 to 6 as far as present, read with `atoi`
and a time `<= 0` kept as `0`, the flags of field 7, and the expired flag when
`0 < expiretime <= now`.  `pubFields_joinFields` proves that the cascade of `gpg_strsep` calls
computes it, and `parsePub_clean` describes the whole `pub:` branch from the fields.

`WorkSlot.Clean` is the state a run of `parse_keyrec` from process start keeps `work` in until a
flush frees a dead record: not freed, and a dead record is the empty one.

**Times.**  `struct keyrec` holds the creation and expiry times as `u32`, but `parse_keyrec` reads
them with `atoi`, which narrows to `int`.  A decimal time `t` of the `u32` range comes back as
`t` below `2^31`.  From `2^31` on, with a `long` wider than 32 bits it comes back as the
negative `t - 2^32`, which the `<= 0` test then turns into `0`; with a 32-bit `long`, `strtol`
saturates it at `2^31 - 1` (`timeField_toDigits`).  **`parseKeyrecLine_pubTimes`** says what a
`pub:` line with decimal times makes of the record: on LP64 a key created or expiring from 2038
on gets no date, so `print_keyrec` shows none, and never counts as expired; on ILP32 it gets the
date of 2038-01-19.
-/

namespace NeoPG

/-! ## Fields -/

/-- The fields of a line, after `trim_trailing_ws`: the record type, then the rest. -/
def lineFields (line : CStr) : List CStr := (trimTrailingWs line).splitOn ':'

/-- The flags a flags field sets: `1`, `2` or `4` for each `r`/`R`, `d`/`D` or `e`/`E`. -/
def flagsOf (f : CStr) : Nat := f.foldl (· ||| flagBit ·) 0

/-- The record the search-result format describes for a `pub:` line whose key classifies as
`d`, from the fields `fs` after the key: algorithm, size, creation and expiry time as far as
present, read with `atoi` and a time `<= 0` kept as `0`; the flags of field 7, with the expired
flag when `0 < expiretime <= now`.  It has no user id yet and one line. -/
def pubRecord (longBits : Nat) (now : UInt32) (d : KeydbSearchDesc) (fs : List CStr) : Keyrec :=
  let expiretime := (fs[3]?.map (timeField longBits)).getD 0
  { desc := d
    createtime := (fs[2]?.map (timeField longBits)).getD 0
    expiretime := expiretime
    size := (fs[1]?.map (atoi longBits)).getD 0
    flags := (fs[4]?.map flagsOf).getD 0 ||| if 0 < expiretime ∧ expiretime ≤ now then 4 else 0
    type := (fs[0]?.map fun f => UInt8.ofNat (atoi longBits f % 256).toNat).getD 0
    uidbuf := []
    lines := 1 }

lemma foldl_flagBit (f : CStr) : ∀ a, f.foldl (· ||| flagBit ·) a = a ||| flagsOf f := by
  induction f with
  | nil => simp [flagsOf]
  | cons c f ih =>
    intro a
    rw [flagsOf, List.foldl_cons, List.foldl_cons, ih, ih, Nat.zero_or, Nat.or_assoc]

lemma uint32_ofNat_pos {t : Nat} (ht : t < 2 ^ 32) : 0 < UInt32.ofNat t ↔ 0 < t := by
  simp only [UInt32.lt_def, BitVec.lt_def, UInt32.toBitVec_eq_of_lt ht]
  simp

/-- A time field is positive exactly when `atoi` reads a positive number. -/
lemma timeField_pos (longBits : Nat) (tok : CStr) :
    0 < timeField longBits tok ↔ 0 < atoi longBits tok := by
  have := atoi_lt longBits tok
  unfold timeField
  split_ifs with h
  · simp only [UInt32.lt_irrefl, false_iff]
    omega
  · rw [uint32_ofNat_pos (by omega)]
    omega

/-- The expired flag as the expiry field sets it: when `atoi` reads a positive time that is not
after `now`. -/
lemma expiredFlag_eq (longBits : Nat) (now : UInt32) (tok : CStr) :
    (if atoi longBits tok ≤ 0 ∨ now < timeField longBits tok then 0 else 4) =
      if 0 < timeField longBits tok ∧ timeField longBits tok ≤ now then 4 else 0 := by
  by_cases h : 0 < atoi longBits tok
  · have ht := (timeField_pos longBits tok).mpr h
    by_cases hn : now < timeField longBits tok
    · simp [ht, hn, UInt32.not_le.mpr hn]
    · simp [ht, hn, UInt32.not_lt.mp hn, show ¬atoi longBits tok ≤ 0 by omega]
  · have ht := mt (timeField_pos longBits tok).mp h
    simp [ht, show atoi longBits tok ≤ 0 by omega]

/-- **The cascade of optional fields.**  On the fields after the key, the `gpg_strsep` calls
of the `pub:` branch build `pubRecord`. -/
lemma pubFields_joinFields (longBits : Nat) (now : UInt32) (d : KeydbSearchDesc) :
    ∀ fs : List CStr, (∀ f ∈ fs, ':' ∉ f) →
      pubFields longBits now (joinFields fs) { Keyrec.empty with desc := d, lines := 1 } =
        pubRecord longBits now d fs := by
  intro fs hfs
  have hsuf : ∀ {tok fs'}, tok :: fs' <:+ fs →
      gpgStrsep [':'] (joinFields (tok :: fs')) = some (tok, joinFields fs') :=
    fun h => gpgStrsep_joinFields fun f hf => hfs f (h.subset hf)
  rcases fs with _ | ⟨a, _ | ⟨b, _ | ⟨c, _ | ⟨e, _ | ⟨g, rest⟩⟩⟩⟩⟩ <;>
    simp [pubFields, optField, hsuf, List.suffix_cons_iff, pubRecord, Keyrec.empty,
      foldl_flagBit, expiredFlag_eq]
  exact Nat.or_comm _ _

/-! ## The `pub:` branch -/

/-- The state a run of `parse_keyrec` keeps `work` in until a flush frees a dead record: not
freed, and a dead record is the empty one, since a record turns dead only as it is opened. -/
def WorkSlot.Clean : WorkSlot → Prop
  | .null => True
  | .alloc k => k.desc = .none → k = Keyrec.empty
  | .freed => False

/-- The record a `pub:` line's fields after the record type open: `pubRecord` for a key that
classifies as a key id, and the empty dead record for any other key or none. -/
def pubOpen (env : ParseEnv) : List CStr → Keyrec
  | [] => Keyrec.empty
  | key :: fs =>
    match (env.classify key).filter KeydbSearchDesc.isKeyId with
    | some d => pubRecord env.longBits env.now d fs
    | none => Keyrec.empty

/-- **The `pub:` branch**, from the fields after the record type: the open record is handed back
when it has a mode, and the line opens `pubOpen` of its fields. -/
lemma parsePub_clean (env : ParseEnv) {w : Keyrec} (hw : w.desc = .none → w = Keyrec.empty)
    (rest : Option CStr) :
    parsePub env w rest = (pubOpen env (colonFields rest), if w.desc = .none then none else some w)
    := by
  have hfree : ∀ f ∈ colonFields rest, ':' ∉ f := fun _ => colon_not_mem_of_mem_colonFields
  have hwork : (if w.desc = .none then w else Keyrec.empty) = Keyrec.empty := by
    split_ifs with h
    · exact hw h
    · rfl
  rw [← joinFields_colonFields rest]
  rw [colonFields_joinFields hfree]
  unfold parsePub
  rcases hfs : colonFields rest with _ | ⟨key, fs⟩
  · simp [hwork, pubOpen]
  · rw [hfs] at hfree
    rw [gpgStrsep_joinFields hfree]
    simp only [hwork, pubOpen]
    rcases (env.classify key).filter KeydbSearchDesc.isKeyId with _ | d
    · rfl
    · exact Prod.ext
        (pubFields_joinFields _ _ _ _ fun f hf => hfree f (List.mem_cons_of_mem _ hf)) rfl

/-- What `work` holds open: the record being assembled when it has a mode, none for `NULL`, a
dead record or freed memory. -/
def WorkSlot.openRecord : WorkSlot → Option Keyrec
  | .alloc k => if k.desc = .none then none else some k
  | _ => none

lemma lineFields_eq (line : CStr) :
    lineFields line = strsepToken [':'] (trimTrailingWs line) ::
      colonFields (strsepRest [':'] (trimTrailingWs line)) :=
  splitOn_colon _

/-- **A `pub:` line** on a clean slot hands back the record held open and opens `pubOpen` of the
fields after its record type. -/
lemma parseKeyrecLine_pub (env : ParseEnv) {work : WorkSlot} (hw : work.Clean) {line rec : CStr}
    {fs : List CStr} (hline : lineFields line = rec :: fs)
    (hpub : asciiStrcasecmpEq "pub".toList rec) :
    parseKeyrecLine env work line = .ok (.alloc (pubOpen env fs), work.openRecord) := by
  rw [lineFields_eq, List.cons.injEq] at hline
  obtain ⟨rfl, rfl⟩ := hline
  unfold parseKeyrecLine
  rw [if_pos hpub]
  cases work with
  | null => simp [WorkSlot.deref, Except.map, parsePub_clean, WorkSlot.openRecord]
  | alloc k => simp [WorkSlot.deref, Except.map, parsePub_clean env hw, WorkSlot.openRecord]
  | freed => exact hw.elim

/-! ## Times -/

/-- **A decimal time as `parse_keyrec` stores it.**  A time `t` of the `u32` range written in
decimal is kept when it is below `2^31`.  From `2^31` on, a `long` wider than 32 bits holds it,
and narrowing it to `int` makes it negative, so it is stored as `0`; a 32-bit `long` saturates
it at `LONG_MAX = 2^31 - 1`, which is stored. -/
lemma timeField_toDigits (longBits : Nat) (hlong : 32 ≤ longBits) {t : Nat} (ht : t < 2 ^ 32) :
    timeField longBits (Nat.toDigits 10 t) = if t < 2 ^ 31 then UInt32.ofNat t
      else if longBits = 32 then UInt32.ofNat (2 ^ 31 - 1) else 0 := by
  have hwide : (2 : Int) ^ 31 ≤ 2 ^ (longBits - 1) := pow_le_pow_right₀ (by norm_num) (by omega)
  have hwider : longBits ≠ 32 → (2 : Int) ^ 32 ≤ 2 ^ (longBits - 1) := fun h =>
    pow_le_pow_right₀ (by norm_num) (by omega)
  rw [timeField, atoi_toDigits, toInt32]
  by_cases hs : t < 2 ^ 31
  · have h : (min (t : Int) (2 ^ (longBits - 1) - 1) + 2 ^ 31) % 2 ^ 32 - 2 ^ 31 = t := by
      generalize (2 : Int) ^ (longBits - 1) = m at hwide
      omega
    rw [h, if_pos hs]
    split_ifs with h0
    · rw [show t = 0 by omega]
      rfl
    · rfl
  rw [if_neg hs]
  by_cases h32 : longBits = 32
  · -- `LONG_MAX`, which `int` holds
    subst h32
    have h : (min (t : Int) (2 ^ (32 - 1) - 1) + 2 ^ 31) % 2 ^ 32 - 2 ^ 31 = 2 ^ 31 - 1 := by
      norm_num
      omega
    rw [h, if_pos rfl]
    rfl
  · -- `t` itself, negative as an `int`
    have h : (min (t : Int) (2 ^ (longBits - 1) - 1) + 2 ^ 31) % 2 ^ 32 - 2 ^ 31 ≤ 0 := by
      have := hwider h32
      generalize (2 : Int) ^ (longBits - 1) = m at this
      omega
    rw [if_pos h, if_neg h32]

/-- **A `pub:` line's times.**  On a clean slot, a `pub:` line whose key classifies as a key id
and whose created and expires fields are the decimal times `ct` and `et` of the `u32` range opens
a record with `createtime` and `expiretime` the times below `2^31`; from `2^31` on, a time is
stored as `0` when `long` is wider than 32 bits and as `2^31 - 1` when it has 32.  The expired
flag is set from the expiry exactly when `0 < et` and the time stored is at most `now`, on top
of the flags of the next field, if any: so with a wider `long`, exactly when `et < 2^31` and
`et <= now`. -/
theorem parseKeyrecLine_pubTimes (env : ParseEnv) {work : WorkSlot} (hw : work.Clean)
    {line key f3 f4 : CStr} {more : List CStr} {d : KeydbSearchDesc}
    (hkey : (env.classify key).filter KeydbSearchDesc.isKeyId = some d) {ct et : Nat}
    (hct : ct < 2 ^ 32) (het : et < 2 ^ 32)
    (hline : lineFields line =
      "pub".toList :: key :: f3 :: f4 :: Nat.toDigits 10 ct :: Nat.toDigits 10 et :: more) :
    ∃ k, parseKeyrecLine env work line = .ok (.alloc k, work.openRecord) ∧
      k.createtime = (if ct < 2 ^ 31 then UInt32.ofNat ct
        else if env.longBits = 32 then UInt32.ofNat (2 ^ 31 - 1) else 0) ∧
      k.expiretime = (if et < 2 ^ 31 then UInt32.ofNat et
        else if env.longBits = 32 then UInt32.ofNat (2 ^ 31 - 1) else 0) ∧
      k.flags = ((more.head?.map flagsOf).getD 0 |||
        if 0 < et ∧ (et < 2 ^ 31 ∧ UInt32.ofNat et ≤ env.now ∨
            2 ^ 31 ≤ et ∧ env.longBits = 32 ∧ UInt32.ofNat (2 ^ 31 - 1) ≤ env.now)
        then 4 else 0) := by
  refine ⟨_, parseKeyrecLine_pub env hw hline (by decide), ?_⟩
  simp only [pubOpen, hkey, pubRecord, List.getElem?_cons_succ, List.getElem?_cons_zero,
    Option.map_some', Option.getD_some, timeField_toDigits env.longBits env.longBits_ge hct,
    timeField_toDigits env.longBits env.longBits_ge het, true_and]
  rw [← List.head?_eq_getElem?]
  congr 1
  -- `2 ^ 31`, as `simp` writes it
  by_cases h : et < 2147483648
  · simp [h, uint32_ofNat_pos het, show ¬2147483648 ≤ et by omega]
  · by_cases h32 : env.longBits = 32
    · have hpos : 0 < et := by omega
      simp [h, h32, hpos, show 2147483648 ≤ et by omega]
    · simp [h, h32]

/-- A key created on 2038-01-19 and expiring on 2106-02-07, the last second of the `u32`
range, on LP64: the line `pub:1111111111111111:1:2048:2147483648:4294967295` opens a record
with neither date, and the key does not count as expired. -/
theorem parseKeyrecLine_pubTimes_2038 :
    ∃ k, parseKeyrecLine ⟨classifyUserId, 1000, id, 80, 64, by decide⟩ .null
        "pub:1111111111111111:1:2048:2147483648:4294967295".toList = .ok (.alloc k, none) ∧
      k.createtime = 0 ∧ k.expiretime = 0 ∧ k.flags = 0 :=
  have ⟨k, h, hc, he, hf⟩ := @parseKeyrecLine_pubTimes ⟨classifyUserId, 1000, id, 80, 64, by decide⟩
    .null trivial _ "1111111111111111".toList "1".toList "2048".toList []
    (.longKid 0x11111111 0x11111111) (by decide) 2147483648 4294967295 (by decide) (by decide)
    (by decide)
  ⟨k, h, by simpa using hc, by simpa using he, by simpa using hf⟩

end NeoPG
