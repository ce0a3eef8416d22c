import NeoPG.Keyserver.Desc

/-!
# One search result at a time: `parse_keyrec` and `print_keyrec`

A keyserver answers `KS_SEARCH` with colon-separated lines.  A `pub:` line opens a result, the
`uid:` lines after it add user ids, and the result is complete only when the next `pub:` line
arrives or the stream ends.  `parse_keyrec` keeps the result being assembled in a `static`
pointer `work`, hands a result back when a line completes it, and on a `NULL` line flushes the
one still open.  A `pub:` line whose key does not classify as a key id or fingerprint leaves a
*dead* record (mode `NONE`) that collects nothing and is never handed back.

`work` is modelled as a `WorkSlot`, with the state the C leaves it in after freeing a dead
record at the flush: the pointer is freed but not cleared, and the next `pub:` or `uid:` line,
or the next flush, dereferences freed memory (`Fault.useAfterFree`).

* `WorkSlot.pending` is the descriptor the open record will be handed back with, if any.
  **`parseKeyrecLine_pending`** says what one line does to it: the records handed back followed
  by the one still open are the open one before, followed by the line's own key
  (`pubDesc`).  **`parseKeyrecFlush_pending`** says the flush hands back exactly the open one.
  Together they say the records come out in the order of their `pub:` lines, none lost and none
  doubled.
* Every record handed back has a key-id mode (`parseKeyrec_isKeyId`), and `print_keyrec` hits
  its `BUG ()` exactly on the other modes (`printKeyrec_of_isKeyId`).
* A line that starts with `info:` is no record line: `parse_keyrec` only allocates `work` for
  it (`parseKeyrecLine_info`), and it opens no record (`pubDesc_info`).
-/

namespace NeoPG

/-! ## The record and the static that holds it -/

/-- `struct keyrec`: a search result being assembled from a `pub:` line and its `uid:` lines. -/
structure Keyrec where
  desc : KeydbSearchDesc
  createtime : UInt32
  expiretime : UInt32
  size : Int
  flags : Nat
  type : UInt8
  /-- The `iobuf_temp` buffer the user ids are written to. -/
  uidbuf : CStr
  lines : UInt32
  deriving DecidableEq

/-- `xmalloc_clear` followed by `iobuf_temp ()`: every field zero, mode `NONE`. -/
def Keyrec.empty : Keyrec := ⟨.none, 0, 0, 0, 0, 0, [], 0⟩

/-- `parse_keyrec`'s `static struct keyrec *work`. -/
inductive WorkSlot
  /-- `NULL`. -/
  | null
  /-- A live allocation holding the record being assembled. -/
  | alloc (k : Keyrec)
  /-- A pointer to memory that has been freed. -/
  | freed
  deriving DecidableEq

namespace WorkSlot

/-- `if (work == NULL) work = xmalloc_clear (...)`. -/
def allocate : WorkSlot → WorkSlot
  | null => alloc Keyrec.empty
  | w => w

/-- The record a `pub:` or `uid:` line reads through `work`, once allocated. -/
def deref : WorkSlot → Except Fault Keyrec
  | null => .ok Keyrec.empty
  | alloc k => .ok k
  | freed => .error .useAfterFree

/-- The descriptor the open record will be handed back with: none for `NULL`, a dead record or
freed memory. -/
def pending : WorkSlot → List KeydbSearchDesc
  | alloc k => if k.desc = .none then [] else [k.desc]
  | _ => []

@[simp] lemma pending_null : null.pending = [] := rfl
@[simp] lemma pending_freed : freed.pending = [] := rfl

/-- The open record, if it has a mode, has a key-id mode. -/
def Wf (w : WorkSlot) : Prop := ∀ d ∈ w.pending, d.isKeyId

end WorkSlot

/-! ## `parse_keyrec` -/

/-- The collaborators `parse_keyrec` calls, the option it reads, and the width of `long` its
`atoi` calls saturate at. -/
structure ParseEnv where
  /-- `classify_user_id (tok, &desc, 1)`: the descriptor, `none` when it returns an error. -/
  classify : CStr → Option KeydbSearchDesc
  /-- `make_timestamp ()`. -/
  now : UInt32
  /-- `utf8_to_native (s, len, 0)`. -/
  utf8ToNative : CStr → CStr
  /-- `opt.screen_columns`. -/
  screenColumns : UInt32
  /-- The width of `long` in bits: 64 on LP64, 32 on ILP32. -/
  longBits : Nat
  /-- C makes `long` at least 32 bits wide. -/
  longBits_ge : 32 ≤ longBits

/-- The `work->flags` bit a character of a `pub:` line's flags field sets. -/
def flagBit (c : Char) : Nat :=
  if c = 'r' ∨ c = 'R' then 1
  else if c = 'd' ∨ c = 'D' then 2
  else if c = 'e' ∨ c = 'E' then 4
  else 0

/-- A time field: `atoi (tok) <= 0` stores 0, anything else the value. -/
def timeField (longBits : Nat) (tok : CStr) : UInt32 :=
  if atoi longBits tok ≤ 0 then 0 else UInt32.ofNat (atoi longBits tok).toNat

/-- One optional field of a `pub:` line: when `gpg_strsep` yields a token, `set` stores it and
parsing goes on with `next`; when it yields NULL, `return ret` keeps the record as it is. -/
def optField (rest : Option CStr) (k : Keyrec) (set : CStr → Keyrec → Keyrec)
    (next : Option CStr → Keyrec → Keyrec) : Keyrec :=
  match gpgStrsep [':'] rest with
  | none => k
  | some (tok, rest) => next rest (set tok k)

/-- The fields of a `pub:` line after the key: algorithm, size, creation and expiry times,
flags.  An expiry at or before `now` forces the expired flag. -/
def pubFields (longBits : Nat) (now : UInt32) (rest : Option CStr) (k : Keyrec) : Keyrec :=
  optField rest k (fun tok k => { k with type := UInt8.ofNat (atoi longBits tok % 256).toNat })
  fun rest k => optField rest k (fun tok k => { k with size := atoi longBits tok })
  fun rest k => optField rest k (fun tok k => { k with createtime := timeField longBits tok })
  fun rest k => optField rest k (fun tok k =>
    { k with
      expiretime := timeField longBits tok
      flags :=
        if atoi longBits tok ≤ 0 ∨ now < timeField longBits tok then k.flags else k.flags ||| 4 })
  fun rest k => optField rest k (fun tok k => { k with flags := tok.foldl (· ||| flagBit ·) k.flags })
  fun _ k => k

/-- The `pub:` branch on the open record: a record that has a mode is complete and handed back,
and the line's key opens the next one, dead unless it classifies as a key id. -/
def parsePub (env : ParseEnv) (work : Keyrec) (rest : Option CStr) : Keyrec × Option Keyrec :=
  let ret := if work.desc = .none then none else some work
  let work := if work.desc = .none then work else Keyrec.empty
  match gpgStrsep [':'] rest with
  | none => (work, ret)
  | some (tok, rest) =>
    match (env.classify tok).filter KeydbSearchDesc.isKeyId with
    | some d =>
      (pubFields env.longBits env.now rest { work with desc := d, lines := work.lines + 1 }, ret)
    | none => ({ work with desc := .none }, ret)

/-- De-%-encoding of a `uid:` field as the C does it in place: `%` and two more bytes become the
byte they encode, or `?` when they are not two hex digits. -/
def percentDecode : CStr → CStr
  | '%' :: a :: b :: rest =>
    (match hextobyte a b with
      | some c => Char.ofNat c
      | none => '?') :: percentDecode rest
  | c :: rest => c :: percentDecode rest
  | [] => []

/-- The `uid:` branch on a record that has a mode: the decoded user id, cut to
`opt.screen_columns - 10` bytes, is appended to the buffer with `"\n\t"`. -/
def parseUid (env : ParseEnv) (work : Keyrec) (rest : Option CStr) : Keyrec :=
  match gpgStrsep [':'] rest with
  | none => work
  | some (tok, _) =>
    if tok = [] then work
    else
      let decoded := (env.utf8ToNative (percentDecode tok)).takeWhile (· != '\x00')
      { work with
        uidbuf := work.uidbuf ++ decoded.take (env.screenColumns - 10).toNat ++ ['\n', '\t']
        lines := work.lines + 1 }

/-- `parse_keyrec (keystring)` for a line.  `gpg_strsep` on the non-NULL line always yields the
record type, so the C's `return ret` for a NULL record type is dead. -/
def parseKeyrecLine (env : ParseEnv) (work : WorkSlot) (line : CStr) :
    Except Fault (WorkSlot × Option Keyrec) :=
  let keystring := trimTrailingWs line
  let record := strsepToken [':'] keystring
  let rest := strsepRest [':'] keystring
  if asciiStrcasecmpEq "pub".toList record then
    work.deref.map fun w => ((WorkSlot.alloc (parsePub env w rest).1), (parsePub env w rest).2)
  else if asciiStrcasecmpEq "uid".toList record then
    work.deref.map fun w =>
      (WorkSlot.alloc (if w.desc = .none then w else parseUid env w rest), none)
  else .ok (work.allocate, none)

/-- `parse_keyrec (NULL)`: the open record is handed back and `work` cleared; a dead record is
freed and `work` is left pointing at it. -/
def parseKeyrecFlush : WorkSlot → Except Fault (WorkSlot × Option Keyrec)
  | .null => .ok (.null, none)
  | .freed => .error .useAfterFree
  | .alloc k => if k.desc = .none then .ok (.freed, none) else .ok (.null, some k)

/-- `parse_keyrec (keystring)`: a line, or `NULL` for the flush. -/
def parseKeyrec (env : ParseEnv) (work : WorkSlot) : Option CStr →
    Except Fault (WorkSlot × Option Keyrec)
  | some line => parseKeyrecLine env work line
  | none => parseKeyrecFlush work

/-! ## What the parser hands back -/

/-- The descriptor a line opens a live record with: the key of a `pub:` line, when it
classifies as a key id. -/
def pubDesc (env : ParseEnv) (line : CStr) : Option KeydbSearchDesc :=
  let keystring := trimTrailingWs line
  if asciiStrcasecmpEq "pub".toList (strsepToken [':'] keystring) then
    (gpgStrsep [':'] (strsepRest [':'] keystring)).bind fun (tok, _) =>
      (env.classify tok).filter KeydbSearchDesc.isKeyId
  else none

@[simp] lemma Keyrec.empty_desc : Keyrec.empty.desc = .none := rfl

/-- The optional fields never touch the descriptor. -/
@[simp] lemma pubFields_desc (longBits : Nat) (now : UInt32) :
    ∀ (rest : Option CStr) (k : Keyrec), (pubFields longBits now rest k).desc = k.desc := by
  intro rest k
  simp only [pubFields, optField]
  repeat' split
  all_goals rfl

@[simp] lemma parseUid_desc (env : ParseEnv) (work : Keyrec) (rest : Option CStr) :
    (parseUid env work rest).desc = work.desc := by
  unfold parseUid; split
  · rfl
  · split <;> rfl

/-- The `pub:` branch hands back the open record exactly when it has a mode, and opens a live
record exactly for a key that classifies as a key id. -/
lemma parsePub_pending (env : ParseEnv) (w : Keyrec) (rest : Option CStr) :
    (parsePub env w rest).2.toList.map Keyrec.desc ++
        (WorkSlot.alloc (parsePub env w rest).1).pending =
      (WorkSlot.alloc w).pending ++
        ((gpgStrsep [':'] rest).bind fun (tok, _) =>
          (env.classify tok).filter KeydbSearchDesc.isKeyId).toList := by
  unfold parsePub
  cases gpgStrsep [':'] rest with
  | none => by_cases hw : w.desc = .none <;> simp [hw, WorkSlot.pending]
  | some p =>
    cases hf : (env.classify p.1).filter KeydbSearchDesc.isKeyId with
    | none => by_cases hw : w.desc = .none <;> simp [hw, hf, WorkSlot.pending]
    | some d =>
      have hd : d ≠ .none := KeydbSearchDesc.ne_none_of_isGetMode
        (KeydbSearchDesc.isGetMode_of_isKeyId (Option.filter_eq_some.mp hf).2)
      by_cases hw : w.desc = .none <;> simp [hw, hf, hd, WorkSlot.pending]

/-- **One line.**  The records a line makes `parse_keyrec` hand back, followed by the one left
open, are the one open before followed by the line's own key. -/
theorem parseKeyrecLine_pending {env : ParseEnv} {work work' : WorkSlot} {line : CStr}
    {ret : Option Keyrec} (h : parseKeyrecLine env work line = .ok (work', ret)) :
    ret.toList.map Keyrec.desc ++ work'.pending = work.pending ++ (pubDesc env line).toList := by
  unfold parseKeyrecLine at h
  unfold pubDesc
  dsimp only at h ⊢
  split_ifs at h ⊢ with hpub huid
  · cases work <;> simp only [WorkSlot.deref, Except.map, Except.ok.injEq, Prod.mk.injEq,
      reduceCtorEq] at h
    all_goals obtain ⟨rfl, rfl⟩ := h
    all_goals exact parsePub_pending env _ _
  · cases work <;> simp only [WorkSlot.deref, Except.map, Except.ok.injEq, Prod.mk.injEq,
      reduceCtorEq] at h
    all_goals obtain ⟨rfl, rfl⟩ := h
    all_goals split <;> simp_all [WorkSlot.pending]
  · simp only [Except.ok.injEq, Prod.mk.injEq] at h
    obtain ⟨rfl, rfl⟩ := h
    cases work <;> simp [WorkSlot.allocate, WorkSlot.pending]

/-- **The flush** hands back exactly the record left open, and leaves none. -/
theorem parseKeyrecFlush_pending {work work' : WorkSlot} {ret : Option Keyrec}
    (h : parseKeyrecFlush work = .ok (work', ret)) :
    ret.toList.map Keyrec.desc = work.pending ∧ work'.pending = [] := by
  cases work with
  | null => cases h; simp
  | freed => cases h
  | alloc k =>
    simp only [parseKeyrecFlush] at h
    split_ifs at h with hk <;> cases h <;> simp [WorkSlot.pending, hk]

/-! ## Key-id modes only -/

lemma pubDesc_isKeyId {env : ParseEnv} {line : CStr} {d : KeydbSearchDesc}
    (h : pubDesc env line = some d) : d.isKeyId := by
  unfold pubDesc at h
  dsimp only at h
  split_ifs at h
  obtain ⟨_, -, h⟩ := Option.bind_eq_some.mp h
  exact (Option.filter_eq_some.mp h).2

/-- A well-formed slot stays well formed, and every record handed back has a key-id mode. -/
theorem parseKeyrec_isKeyId {env : ParseEnv} {work work' : WorkSlot} {line : Option CStr}
    {ret : Option Keyrec} (hw : work.Wf) (h : parseKeyrec env work line = .ok (work', ret)) :
    work'.Wf ∧ ∀ k ∈ ret, k.desc.isKeyId := by
  have key : ∀ d ∈ ret.toList.map Keyrec.desc ++ work'.pending, d.isKeyId := by
    cases line with
    | some l =>
      rw [parseKeyrecLine_pending h]
      intro d hd
      rcases List.mem_append.mp hd with hd | hd
      · exact hw d hd
      · exact pubDesc_isKeyId (Option.mem_toList.mp hd)
    | none =>
      obtain ⟨h1, h2⟩ := parseKeyrecFlush_pending h
      rw [h1, h2, List.append_nil]
      exact hw
  refine ⟨fun d hd => key d (List.mem_append_right _ hd), fun k hk => key k.desc ?_⟩
  exact List.mem_append_left _ (List.mem_map_of_mem _ (Option.mem_toList.mpr hk))

/-- `parse_keyrec` faults only by dereferencing the freed `work`. -/
lemma parseKeyrec_error {env : ParseEnv} {work : WorkSlot} {line : Option CStr} {f : Fault}
    (h : parseKeyrec env work line = .error f) : f = .useAfterFree := by
  cases line with
  | none =>
    cases work with
    | freed => cases h; rfl
    | null => cases h
    | alloc k => simp only [parseKeyrec, parseKeyrecFlush] at h; split_ifs at h
  | some l =>
    simp only [parseKeyrec, parseKeyrecLine] at h
    split_ifs at h <;> cases work <;> cases h <;> rfl

/-! ## `info:` lines past the header -/

/-- A line `ascii_strncasecmp` finds to start with `info:` has a record type of four bytes or
more: its first four bytes are no `:`, and its fifth is no trailing whitespace. -/
lemma recordType_of_info {line : CStr} (h : asciiStrncasecmpEq "info:".toList line 5) :
    4 ≤ (strsepToken [':'] (trimTrailingWs line)).length := by
  match line, h with
  | x0 :: x1 :: x2 :: x3 :: x4 :: rest, h =>
    simp [asciiStrncasecmpEq, asciiStrcasecmpEq] at h
    obtain ⟨h0, h1, h2, h3, h4⟩ := h
    have hws : isTrailingWs x4 = false := by
      cases hx : isTrailingWs x4
      · rfl
      · simp only [isTrailingWs, Bool.or_eq_true, beq_iff_eq] at hx
        rcases hx with ((rfl | rfl) | rfl) | rfl <;> exact absurd h4 (by decide)
    have hne : ∀ {x : Char} (a : Char), asciiToupper a = asciiToupper x → asciiToupper a ≠ ':' →
        x ∉ [':'] := by
      rintro x a hx ha hx'
      rw [List.mem_singleton.mp hx'] at hx
      exact ha (hx.trans (by decide))
    rw [show x0 :: x1 :: x2 :: x3 :: x4 :: rest = [x0, x1, x2, x3] ++ x4 :: rest from rfl,
      trimTrailingWs_append_cons _ hws, List.cons_append, List.cons_append, List.cons_append,
      List.cons_append, strsepToken_cons (hne _ h0 (by decide)),
      strsepToken_cons (hne _ h1 (by decide)), strsepToken_cons (hne _ h2 (by decide)),
      strsepToken_cons (hne _ h3 (by decide))]
    simp
  | [], h | [_], h | [_, _], h | [_, _, _], h | [_, _, _, _], h =>
    simp [asciiStrncasecmpEq, asciiStrcasecmpEq] at h

/-- An `info:` line opens no record. -/
lemma pubDesc_info (env : ParseEnv) {line : CStr} (h : asciiStrncasecmpEq "info:".toList line 5) :
    pubDesc env line = none := by
  have h4 := recordType_of_info h
  unfold pubDesc
  rw [if_neg]
  intro h'
  have := length_eq_of_asciiStrcasecmpEq h'
  simp only [String.toList, List.length_cons, List.length_nil] at this
  omega

/-! ## `print_keyrec` -/

/-- The collaborators `print_keyrec` calls, and the option it reads. -/
structure PrintEnv where
  /-- `keystr (kid)`, which honours `--keyid-format`. -/
  keystr : UInt32 × UInt32 → CStr
  /-- `keyid_from_fingerprint (ctrl, fpr, 20, kid)`. -/
  keyidFromFingerprint : Mathlib.Vector UInt8 20 → UInt32 × UInt32
  /-- `strtimestamp (t)`. -/
  strtimestamp : UInt32 → CStr
  /-- `openpgp_pk_algo_name (algo)`, `none` for NULL. -/
  openpgpPkAlgoName : UInt8 → Option CStr
  /-- `opt.keyid_format` is `KF_0xSHORT` or `KF_0xLONG`. -/
  keyidFormat0x : Bool

/-- The key part of `print_keyrec`'s line; `BUG ()` for a mode without a key id. -/
def keyrecKeyText (env : PrintEnv) : KeydbSearchDesc → Except Fault CStr
  | .shortKid k1 => .ok ("key ".toList ++ (if env.keyidFormat0x then "0x".toList else []) ++ hex08 k1)
  | .longKid k0 k1 => .ok ("key ".toList ++ env.keystr (k0, k1))
  | .fpr16 f => .ok ("key ".toList ++ bin2hex f.toList)
  | .fpr20 f => .ok ("key ".toList ++ env.keystr (env.keyidFromFingerprint f))
  | _ => .error .bug

/-- `print_keyrec (ctrl, number, keyrec)`: the line it prints. -/
def printKeyrec (env : PrintEnv) (number : Int) (k : Keyrec) : Except Fault CStr :=
  (keyrecKeyText env k.desc).map fun key =>
    "(".toList ++ (toString number).toList ++ ")\t".toList ++ k.uidbuf ++ "  ".toList ++
    (if k.size > 0 then (toString k.size).toList ++ " bit ".toList else []) ++
    (if k.type = 0 then []
      else match env.openpgpPkAlgoName k.type with
        | some s => if s = "?".toList then "unknown ".toList else s ++ " ".toList
        | none => "unknown ".toList) ++
    key ++
    (if k.createtime > 0 then ", created: ".toList ++ env.strtimestamp k.createtime else []) ++
    (if k.expiretime > 0 then ", expires: ".toList ++ env.strtimestamp k.expiretime else []) ++
    (if k.flags &&& 1 = 0 then [] else " (revoked)".toList) ++
    (if k.flags &&& 2 = 0 then [] else " (disabled)".toList) ++
    (if k.flags &&& 4 = 0 then [] else " (expired)".toList) ++
    ['\n']

/-- `print_keyrec` prints every record of a key-id mode and reaches `BUG ()` on every other. -/
theorem printKeyrec_of_isKeyId (env : PrintEnv) (number : Int) (k : Keyrec) :
    (∃ s, printKeyrec env number k = .ok s) ↔ k.desc.isKeyId := by
  have key : (∃ s, keyrecKeyText env k.desc = .ok s) ↔ k.desc.isKeyId := by
    cases k.desc <;> simp [keyrecKeyText, KeydbSearchDesc.isKeyId]
  rw [← key, printKeyrec]
  cases keyrecKeyText env k.desc with
  | error e => exact ⟨fun ⟨_, h⟩ => (nomatch h), fun ⟨_, h⟩ => (nomatch h)⟩
  | ok key => exact ⟨fun _ => ⟨_, rfl⟩, fun _ => ⟨_, rfl⟩⟩

end NeoPG
