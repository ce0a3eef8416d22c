import Mathlib.Data.UInt
import NeoPG.Search.PubFields

/-!
# What `parse_keyrec` hands back over a whole stream

The search-result format describes a stream by blocks: each `pub:` line opens one, which runs up
to the next `pub:` line.  A block is kept when its key classifies as a key id, and its record is
the `pub:` line's fields (`pubRecord`) with the block's user ids.  This module states that reading
(`cutBlocks`, `uidText`, `blockRecord`, `refBlocks`) and proves what `parse_keyrec`, fed the lines
one at a time from an empty `work` and then `NULL` flushes, hands back.

* `parseKeyrecLine_step` is one line on a clean slot: a `pub:` line hands back the record held
  open and opens its block's record, any other line adds its user id, if it has one, to the open
  record.
* `parseKeyrecRun_lines` is the run over any lines, by induction along `cutBlocks`: the records
  handed back, then the one left open, are the open one with the leading lines' user ids, then the
  records of the blocks.
* **`parseKeyrecRun_refBlocks`** is the result: the first flush completes exactly `refBlocks`, in
  block order and each once; a further flush faults (`Fault.useAfterFree`) exactly when the last
  block is not kept or the stream has no block, since the first flush freed the dead record
  without clearing `work`.
-/

namespace NeoPG

/-! ## Blocks and records, as the format describes them -/

/-- Whether a line opens a block: its first field is `pub`, in any case. -/
def isPubLine (line : CStr) : Bool :=
  asciiStrcasecmpEq "pub".toList ((lineFields line).headD [])

/-- The user id a line adds to its block: for a `uid:` line with a non-empty second field, the
field percent-decoded, converted to the native charset and read as a C string, cut to
`screen_columns - 10` bytes when longer; none for any other line. -/
def uidText (env : ParseEnv) (line : CStr) : Option CStr :=
  match lineFields line with
  | rec :: tok :: _ =>
    if asciiStrcasecmpEq "uid".toList rec ∧ tok ≠ [] then
      some (((env.utf8ToNative (percentDecode tok)).takeWhile (· != '\x00')).take
        (env.screenColumns - 10).toNat)
    else none
  | _ => none

/-- The lines cut at each `pub:` line: the lines before the first one, and each `pub:` line with
the lines after it up to the next. -/
def cutBlocks : List CStr → List CStr × List (CStr × List CStr)
  | [] => ([], [])
  | line :: lines =>
    match cutBlocks lines with
    | (pre, blocks) => if isPubLine line then ([], (line, pre) :: blocks) else (line :: pre, blocks)

/-- `k` with the user ids `uids` appended to `uidbuf`, each followed by `"\n\t"`, and one line
more for each. -/
def withUids (k : Keyrec) (uids : List CStr) : Keyrec :=
  { k with
    uidbuf := k.uidbuf ++ (uids.map (· ++ ['\n', '\t'])).flatten
    lines := k.lines + UInt32.ofNat uids.length }

/-- The record of a block, when its key classifies as a key id: the `pub:` line's record with the
user ids of the block's lines. -/
def blockRecord (env : ParseEnv) (b : CStr × List CStr) : Option Keyrec :=
  match lineFields b.1 with
  | _ :: key :: fs =>
    ((env.classify key).filter KeydbSearchDesc.isKeyId).map fun d =>
      withUids (pubRecord env.longBits env.now d fs) (b.2.filterMap (uidText env))
  | _ => none

/-- The records of the kept blocks, in order. -/
def refBlocks (env : ParseEnv) (lines : List CStr) : List Keyrec :=
  (cutBlocks lines).2.filterMap (blockRecord env)

example : cutBlocks (["info:1:2", "pub:A", "uid:x", "pub:B"].map String.toList) =
    (["info:1:2".toList], [("pub:A".toList, ["uid:x".toList]), ("pub:B".toList, [])]) := by
  decide

@[simp] lemma withUids_nil (k : Keyrec) : withUids k [] = k := by
  simp [withUids, show UInt32.ofNat 0 = 0 from rfl]

@[simp] lemma withUids_desc (k : Keyrec) (uids : List CStr) : (withUids k uids).desc = k.desc :=
  rfl

lemma withUids_withUids (k : Keyrec) (a b : List CStr) :
    withUids (withUids k a) b = withUids k (a ++ b) := by
  have hadd : UInt32.ofNat (a.length + b.length) = UInt32.ofNat a.length + UInt32.ofNat b.length :=
    UInt32.eq_of_toBitVec_eq (BitVec.ofNat_add _ _)
  simp [withUids, hadd, add_assoc]

/-- A block's record is its `pub:` line's, with the user ids of its lines. -/
lemma blockRecord_body (env : ParseEnv) (line : CStr) (body : List CStr) :
    blockRecord env (line, body) =
      (blockRecord env (line, [])).map (withUids · (body.filterMap (uidText env))) := by
  unfold blockRecord
  dsimp only
  split <;> simp [Option.map_map, Function.comp_def]

/-- A record of a block has a mode. -/
lemma blockRecord_live {env : ParseEnv} {b : CStr × List CStr} {k : Keyrec}
    (h : blockRecord env b = some k) : k.desc ≠ .none := by
  unfold blockRecord at h
  split at h
  · obtain ⟨d, hd, rfl⟩ := Option.map_eq_some'.mp h
    exact KeydbSearchDesc.ne_none_of_isGetMode
      (KeydbSearchDesc.isGetMode_of_isKeyId (Option.filter_eq_some.mp hd).2)
  · cases h

/-! ## One line -/

/-- The slot a line leaves behind: the record held open, or the empty dead record. -/
def slotOf (o : Option Keyrec) : WorkSlot := .alloc (o.getD Keyrec.empty)

section Slot

variable {o : Option Keyrec}

lemma slotOf_clean (h : ∀ k ∈ o, k.desc ≠ .none) : (slotOf o).Clean := by
  cases o with
  | none => exact fun _ => rfl
  | some k => exact fun hk => absurd hk (h k rfl)

lemma openRecord_slotOf (h : ∀ k ∈ o, k.desc ≠ .none) : (slotOf o).openRecord = o := by
  cases o with
  | none => rfl
  | some k => simp [slotOf, WorkSlot.openRecord, h k rfl]

lemma openRecord_live (work : WorkSlot) : ∀ k ∈ work.openRecord, k.desc ≠ .none := by
  intro k hk
  cases work with
  | alloc w =>
    simp only [WorkSlot.openRecord] at hk
    split_ifs at hk with h
    · cases hk
    · cases hk; exact h
  | _ => cases hk

/-- A clean slot is the slot of the record it holds open. -/
lemma slotOf_openRecord {work : WorkSlot} (hw : work.Clean) (hne : work ≠ .null) :
    slotOf work.openRecord = work := by
  cases work with
  | null => exact absurd rfl hne
  | freed => exact hw.elim
  | alloc k =>
    simp only [slotOf, WorkSlot.openRecord]
    split_ifs with h
    · exact congrArg WorkSlot.alloc (hw h).symm
    · rfl

end Slot

/-- The record a `pub:` line opens, as a slot. -/
lemma slotOf_blockRecord (env : ParseEnv) (line : CStr) :
    slotOf (blockRecord env (line, [])) = .alloc (pubOpen env (lineFields line).tail) := by
  unfold blockRecord slotOf
  dsimp only
  rcases lineFields line with _ | ⟨rec, _ | ⟨key, fs⟩⟩
  · rfl
  · rfl
  · simp only [List.tail_cons, pubOpen, withUids_nil, List.filterMap_nil]
    cases (env.classify key).filter KeydbSearchDesc.isKeyId <;> rfl

/-- The `uid:` branch on a record with a mode adds the line's user id, if it has one. -/
lemma parseUid_eq (env : ParseEnv) (w : Keyrec) {line rec : CStr} {rest : Option CStr}
    (hline : lineFields line = rec :: colonFields rest)
    (hrec : asciiStrcasecmpEq "uid".toList rec) :
    parseUid env w rest = withUids w (uidText env line).toList := by
  have hfree : ∀ f ∈ colonFields rest, ':' ∉ f := fun _ => colon_not_mem_of_mem_colonFields
  unfold parseUid uidText
  rw [hline, ← joinFields_colonFields rest, colonFields_joinFields hfree]
  rcases hfs : colonFields rest with _ | ⟨tok, fs⟩
  · simp
  · rw [hfs] at hfree
    rw [gpgStrsep_joinFields hfree]
    by_cases ht : tok = []
    · simp [ht]
    · simp only [String.toList] at hrec
      simp [hrec, ht, withUids, List.append_assoc]

/-- A line that is no `uid:` line adds no user id. -/
lemma uidText_eq_none {env : ParseEnv} {line rec : CStr} {fs : List CStr}
    (hline : lineFields line = rec :: fs) (hrec : ¬asciiStrcasecmpEq "uid".toList rec) :
    uidText env line = none := by
  simp only [String.toList] at hrec
  unfold uidText
  rw [hline]
  cases fs <;> simp [hrec]

/-- **One line** on a clean slot: a `pub:` line hands back the record held open and opens its
block's record; any other line hands back nothing and adds its user id, if it has one, to the
record held open. -/
lemma parseKeyrecLine_step (env : ParseEnv) {work : WorkSlot} (hw : work.Clean) (line : CStr) :
    parseKeyrecLine env work line =
      if isPubLine line then .ok (slotOf (blockRecord env (line, [])), work.openRecord)
      else .ok (slotOf (work.openRecord.map (withUids · (uidText env line).toList)), none) := by
  have hline := lineFields_eq line
  by_cases hpub : isPubLine line
  · rw [if_pos hpub, slotOf_blockRecord, parseKeyrecLine_pub env hw hline
      (by simpa [isPubLine, hline] using hpub), hline, List.tail_cons]
  · have hpub' : ¬asciiStrcasecmpEq "pub".toList (strsepToken [':'] (trimTrailingWs line)) := by
      simpa [isPubLine, hline] using hpub
    rw [if_neg hpub]
    unfold parseKeyrecLine
    dsimp only
    rw [if_neg hpub']
    split_ifs with huid
    · -- a `uid:` line
      cases work with
      | null => rfl
      | freed => exact hw.elim
      | alloc k =>
        by_cases hk : k.desc = .none
        · simp [WorkSlot.deref, Except.map, hk, WorkSlot.openRecord, slotOf, hw hk]
        · simp [WorkSlot.deref, Except.map, hk, WorkSlot.openRecord, slotOf,
            parseUid_eq env k hline huid]
    · -- any other line
      rw [uidText_eq_none hline huid]
      cases work with
      | null => rfl
      | freed => exact hw.elim
      | alloc k => simp [WorkSlot.allocate, slotOf_openRecord hw]

/-! ## The run -/

/-- `parse_keyrec` called on each of `calls` in turn, a line or `NULL` for a flush, with what it
hands back collected; the first fault ends the run. -/
def parseKeyrecRun (env : ParseEnv) :
    WorkSlot → List (Option CStr) → Except Fault (WorkSlot × List Keyrec)
  | work, [] => .ok (work, [])
  | work, call :: calls =>
    match parseKeyrec env work call with
    | .error f => .error f
    | .ok (work, ret) =>
      match parseKeyrecRun env work calls with
      | .error f => .error f
      | .ok (work, rets) => .ok (work, ret.toList ++ rets)

lemma parseKeyrecRun_cons_ok (env : ParseEnv) {work work' : WorkSlot} {call : Option CStr}
    {ret : Option Keyrec} (h : parseKeyrec env work call = .ok (work', ret))
    (calls : List (Option CStr)) :
    parseKeyrecRun env work (call :: calls) =
      (parseKeyrecRun env work' calls).map fun r => (r.1, ret.toList ++ r.2) := by
  rw [parseKeyrecRun, h]
  dsimp only
  cases parseKeyrecRun env work' calls <;> rfl

/-- The records left to hand back from the record `o` held open after the lines `pre`. -/
def openAfter (env : ParseEnv) (o : Option Keyrec) (pre : List CStr) : Option Keyrec :=
  o.map (withUids · (pre.filterMap (uidText env)))

@[simp] lemma openAfter_nil (env : ParseEnv) (o : Option Keyrec) : openAfter env o [] = o := by
  simp [openAfter]

/-- A block's record is the record its `pub:` line opens, after the block's other lines. -/
lemma blockRecord_eq_openAfter (env : ParseEnv) (line : CStr) (body : List CStr) :
    blockRecord env (line, body) = openAfter env (blockRecord env (line, [])) body :=
  blockRecord_body env line body

lemma filterMap_cons_toList {α β : Type} (f : α → Option β) (a : α) (l : List α) :
    (a :: l).filterMap f = (f a).toList ++ l.filterMap f := by
  cases h : f a <;> simp [List.filterMap_cons, h]

lemma openAfter_cons (env : ParseEnv) (o : Option Keyrec) (line : CStr) (pre : List CStr) :
    openAfter env o (line :: pre) =
      openAfter env (o.map (withUids · (uidText env line).toList)) pre := by
  cases o <;> cases h : uidText env line <;>
    simp [openAfter, List.filterMap_cons, h, withUids_withUids]

lemma cutBlocks_cons (line : CStr) (lines : List CStr) :
    cutBlocks (line :: lines) =
      if isPubLine line then ([], (line, (cutBlocks lines).1) :: (cutBlocks lines).2)
      else (line :: (cutBlocks lines).1, (cutBlocks lines).2) := rfl

/-- **The run over the lines.**  From a clean slot holding `o` open, `parse_keyrec` reads every
line without fault.  The records it hands back, followed by the one it leaves open, are `o` with
the user ids of the lines before the first `pub:` line, then the records of the blocks; the one
left open is the last block's record, or `o` with those user ids when there is no block. -/
lemma parseKeyrecRun_lines (env : ParseEnv) : ∀ (lines : List CStr) {work : WorkSlot},
    work.Clean →
      ∃ o out, parseKeyrecRun env work (lines.map some) =
          .ok (if lines = [] then work else slotOf o, out) ∧
        out ++ o.toList =
          (openAfter env work.openRecord (cutBlocks lines).1).toList ++ refBlocks env lines ∧
        o = match (cutBlocks lines).2.getLast? with
          | none => openAfter env work.openRecord (cutBlocks lines).1
          | some b => blockRecord env b
  | [], work, _ => ⟨work.openRecord, [], rfl, by simp [openAfter, cutBlocks, refBlocks],
      by simp [openAfter, cutBlocks]⟩
  | line :: lines, work, hw => by
    -- the line, then the rest from the slot it leaves
    let o₁ := if isPubLine line then blockRecord env (line, [])
      else work.openRecord.map (withUids · (uidText env line).toList)
    have hlive : ∀ k ∈ o₁, k.desc ≠ .none := by
      intro k hk
      by_cases hp : isPubLine line <;> simp [o₁, hp] at hk
      · exact blockRecord_live hk
      · obtain ⟨k', hk', rfl⟩ := hk
        exact openRecord_live work k' hk'
    have hstep : parseKeyrec env work (some line) =
        .ok (slotOf o₁, if isPubLine line then work.openRecord else none) := by
      rw [parseKeyrec, parseKeyrecLine_step env hw]
      by_cases hp : isPubLine line <;> simp [o₁, hp]
    obtain ⟨o, out, hrun, hout, ho⟩ := parseKeyrecRun_lines env lines (slotOf_clean hlive)
    rw [openRecord_slotOf hlive] at hout ho
    have hslot : (if lines = [] then slotOf o₁ else slotOf o) = slotOf o := by
      split_ifs with hl
      · subst hl
        simp [ho, openAfter, cutBlocks]
      · rfl
    refine ⟨o, (if isPubLine line then work.openRecord else none).toList ++ out, ?_, ?_, ?_⟩
    · rw [List.map_cons, parseKeyrecRun_cons_ok env hstep, hrun, hslot,
        if_neg (List.cons_ne_nil _ _)]
      rfl
    · rw [List.append_assoc, hout]
      by_cases hp : isPubLine line
      · simp only [o₁, hp, if_true, cutBlocks_cons, refBlocks, filterMap_cons_toList,
          ← blockRecord_eq_openAfter, openAfter_nil, List.append_assoc]
      · simp only [o₁, hp, cutBlocks_cons, refBlocks, openAfter_cons, Bool.false_eq_true,
          if_false, Option.toList_none, List.nil_append]
    · rw [ho]
      by_cases hp : isPubLine line
      · simp only [o₁, hp, if_true, cutBlocks_cons, List.getLast?_cons]
        cases (cutBlocks lines).2.getLast? with
        | none => exact (blockRecord_eq_openAfter env line _).symm
        | some b => rfl
      · simp only [o₁, hp, cutBlocks_cons, openAfter_cons, Bool.false_eq_true, if_false]

lemma parseKeyrecRun_append (env : ParseEnv) (work : WorkSlot) :
    ∀ xs ys : List (Option CStr), parseKeyrecRun env work (xs ++ ys) =
      match parseKeyrecRun env work xs with
      | .error f => .error f
      | .ok (w, out) => (parseKeyrecRun env w ys).map fun r => (r.1, out ++ r.2)
  | [], ys => by
    show parseKeyrecRun env work ys =
      Except.map (fun r : WorkSlot × List Keyrec => (r.1, [] ++ r.2)) (parseKeyrecRun env work ys)
    cases parseKeyrecRun env work ys <;> rfl
  | x :: xs, ys => by
    rw [List.cons_append, parseKeyrecRun, parseKeyrecRun]
    rcases parseKeyrec env work x with f | ⟨w, ret⟩
    · rfl
    · dsimp only
      rw [parseKeyrecRun_append env w xs ys]
      rcases parseKeyrecRun env w xs with f | ⟨w', out⟩
      · rfl
      · dsimp only
        cases parseKeyrecRun env w' ys <;> simp [Except.map]

/-! ## The flushes -/

/-- The first flush hands back the record held open and clears `work`, or frees the dead record
and leaves `work` pointing at it. -/
lemma parseKeyrecFlush_slotOf {o : Option Keyrec} (h : ∀ k ∈ o, k.desc ≠ .none) :
    parseKeyrecFlush (slotOf o) = .ok (if o.isSome then .null else .freed, o) := by
  cases o with
  | none => rfl
  | some k => simp [parseKeyrecFlush, slotOf, h k rfl]

lemma parseKeyrecRun_flushes_null (env : ParseEnv) :
    ∀ m, parseKeyrecRun env .null (List.replicate m none) = .ok (.null, [])
  | 0 => rfl
  | m + 1 => by
    rw [List.replicate_succ, parseKeyrecRun_cons_ok env (rfl : parseKeyrec env .null none = _),
      parseKeyrecRun_flushes_null env m]
    rfl

/-- **The records over a stream.**  Fed any lines from an empty `work`, then `m + 1` flushes,
`parse_keyrec` hands back exactly the records of the kept blocks, in block order and each once;
but when `m > 0` and the stream ends without a kept block open, that is, it has lines and its
last block, if any, is not kept, the second flush dereferences the `work` the first one freed. -/
theorem parseKeyrecRun_refBlocks (env : ParseEnv) (lines : List CStr) (m : Nat) :
    (parseKeyrecRun env .null (lines.map some ++ List.replicate (m + 1) none)).map Prod.snd =
      if 0 < m ∧ lines ≠ [] ∧ ∀ b ∈ (cutBlocks lines).2.getLast?, blockRecord env b = none then
        .error .useAfterFree
      else .ok (refBlocks env lines) := by
  obtain ⟨o, out, hrun, hout, ho⟩ := @parseKeyrecRun_lines env lines .null trivial
  simp only [WorkSlot.openRecord, openAfter, Option.map_none', Option.toList_none,
    List.nil_append] at hout ho
  rw [parseKeyrecRun_append, hrun]
  dsimp only
  by_cases hl : lines = []
  · -- no line: every flush finds `NULL`
    subst hl
    have : out = [] := (by simpa [refBlocks, cutBlocks] using hout : out = [] ∧ _).1
    simp [this, parseKeyrecRun_flushes_null, Except.map, refBlocks, cutBlocks]
  have hlive : ∀ k ∈ o, k.desc ≠ .none := by
    intro k hk
    rw [ho] at hk
    split at hk
    · cases hk
    · exact blockRecord_live hk
  have hflush : parseKeyrec env (slotOf o) none = .ok (if o.isSome then .null else .freed, o) :=
    parseKeyrecFlush_slotOf hlive
  rw [if_neg hl, List.replicate_succ, parseKeyrecRun_cons_ok env hflush]
  cases o with
  | some k =>
    -- a kept block is open: the first flush hands it back
    have hkept : ¬∀ b ∈ (cutBlocks lines).2.getLast?, blockRecord env b = none := by
      intro h
      split at ho
      · cases ho
      · next b hb => exact absurd (ho.trans (h b hb)) (by simp)
    rw [if_pos Option.isSome_some, parseKeyrecRun_flushes_null,
      if_neg fun h => hkept h.2.2]
    simp [Except.map, ← hout]
  | none =>
    -- a dead record is open: the first flush frees it
    have hdead : ∀ b ∈ (cutBlocks lines).2.getLast?, blockRecord env b = none := by
      intro b hb
      rw [hb] at ho
      exact ho.symm
    rw [if_neg (by simp : ¬(none : Option Keyrec).isSome = true)]
    cases m with
    | zero =>
      rw [if_neg fun h => absurd h.1 (lt_irrefl 0)]
      simpa [Except.map, parseKeyrecRun] using hout
    | succ m =>
      rw [if_pos ⟨Nat.succ_pos m, hl, hdead⟩]
      rfl

/-- A stream whose last key, `zzzz`, is no key id, read with two flushes: the second flush
faults, and the record of key `1111111111111111` is lost with the run. -/
theorem parseKeyrecRun_refBlocks_deadLast :
    let env : ParseEnv := ⟨classifyUserId, 1000, id, 80, 64, by decide⟩
    let lines := ["pub:1111111111111111".toList, "pub:zzzz".toList]
    refBlocks env lines ≠ [] ∧
      (parseKeyrecRun env .null (lines.map some ++ List.replicate 2 none)).map Prod.snd =
        .error .useAfterFree :=
  ⟨by decide, (parseKeyrecRun_refBlocks _ _ 1).trans (if_pos ⟨by decide, by decide, by decide⟩)⟩

end NeoPG
