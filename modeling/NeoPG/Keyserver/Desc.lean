import Mathlib.Data.Vector.Defs
import NeoPG.Util.CString
import NeoPG.Util.Errors

/-!
# Search descriptors

A `KEYDB_SEARCH_DESC` is a mode and a union; which member of the union is meaningful depends
on the mode.  `KeydbSearchDesc` is that tagged union with the payload each mode's readers use,
so a descriptor whose mode and payload disagree cannot be built.  Modes the keyserver code never
names (substring, mail, keygrip searches and the like) are one constructor, `other`: every place
that looks at a mode treats them alike.

Two mode tests recur in `keyserver.cpp`:

* `isKeyId` — `SHORT_KID`, `LONG_KID`, `FPR16` or `FPR20`.  `parse_keyrec`, `keyserver_import`
  and `keyserver_export` all keep a descriptor only when it passes this test.
* `isGetMode` — the modes `keyserver_get_chunk` can turn into a request pattern: the four above
  and `EXACT`.

`classify_user_id` is not among the modelled files; the code that calls it is proved here for
every classifier.  `classifyUserId` is a stand-in for the hex and `=` forms a keyserver sends,
used only where a concrete run has to be evaluated.
-/

namespace NeoPG

/-- A `KEYDB_SEARCH_DESC`: its `mode`, with the member of the union `u` that mode reads. -/
inductive KeydbSearchDesc
  /-- `KEYDB_SEARCH_MODE_NONE`, the mode of a cleared descriptor. -/
  | none
  /-- `KEYDB_SEARCH_MODE_EXACT`, with `u.name`. -/
  | exact (name : CStr)
  /-- `KEYDB_SEARCH_MODE_SHORT_KID`, with `u.kid[1]`; no reader looks at `u.kid[0]`. -/
  | shortKid (kid1 : UInt32)
  /-- `KEYDB_SEARCH_MODE_LONG_KID`, with `u.kid[0]` and `u.kid[1]`. -/
  | longKid (kid0 kid1 : UInt32)
  /-- `KEYDB_SEARCH_MODE_FPR16`, with `u.fpr[0..16)`. -/
  | fpr16 (fpr : Mathlib.Vector UInt8 16)
  /-- `KEYDB_SEARCH_MODE_FPR20`, with `u.fpr[0..20)`. -/
  | fpr20 (fpr : Mathlib.Vector UInt8 20)
  /-- `KEYDB_SEARCH_MODE_FIRST`. -/
  | first
  /-- `KEYDB_SEARCH_MODE_NEXT`. -/
  | next
  /-- Every mode the keyserver code never names. -/
  | other
  deriving DecidableEq

namespace KeydbSearchDesc

/-- The key-id modes: `SHORT_KID`, `LONG_KID`, `FPR16`, `FPR20`. -/
def isKeyId : KeydbSearchDesc → Bool
  | shortKid _ | longKid _ _ | fpr16 _ | fpr20 _ => true
  | _ => false

/-- The modes `keyserver_get_chunk` builds a pattern for: the key-id modes and `EXACT`. -/
def isGetMode : KeydbSearchDesc → Bool
  | exact _ => true
  | d => d.isKeyId

@[simp] lemma isKeyId_none : none.isKeyId = false := rfl

lemma isGetMode_of_isKeyId {d : KeydbSearchDesc} (h : d.isKeyId) : d.isGetMode := by
  cases d <;> simp_all [isKeyId, isGetMode]

lemma ne_none_of_isGetMode {d : KeydbSearchDesc} (h : d.isGetMode) : d ≠ none := by
  rintro rfl
  simp [isGetMode] at h

end KeydbSearchDesc

/-! ## A stand-in classifier for concrete runs -/

/-- The values of the hex digits of `s`, when every byte is one. -/
def hexValues (s : CStr) : Option (List Nat) := s.mapM hexValue

/-- A 32-bit word from hex digit values, most significant first. -/
def hexWord (ds : List Nat) : UInt32 := (ds.foldl (fun n d => 16 * n + d) 0).toUInt32

/-- `n` bytes from `2 n` hex digit values. -/
def hexBytes (n : Nat) (ds : List Nat) : Mathlib.Vector UInt8 n :=
  Mathlib.Vector.ofFn fun i => (16 * ds.getD (2 * i) 0 + ds.getD (2 * i + 1) 0).toUInt8

/-- Modelled from the spec: `classify_user_id` on the forms a keyserver's `pub` lines and a
user's key requests take: an optional `0x` and then 8, 16, 32 or 40 hex digits (short key id,
long key id, v3 and v4 fingerprint), or `=` and an exact user id.  Any other non-empty string is
a search of another mode; the empty string does not classify. -/
def classifyUserId (s : CStr) : Option KeydbSearchDesc :=
  match s with
  | [] => Option.none
  | '=' :: name => some (.exact name)
  | _ =>
    let body :=
      match s with
      | '0' :: 'x' :: r => r
      | '0' :: 'X' :: r => r
      | r => r
    match hexValues body with
    | some ds =>
      if ds.length = 8 then some (.shortKid (hexWord ds))
      else if ds.length = 16 then some (.longKid (hexWord (ds.take 8)) (hexWord (ds.drop 8)))
      else if ds.length = 32 then some (.fpr16 (hexBytes 16 ds))
      else if ds.length = 40 then some (.fpr20 (hexBytes 20 ds))
      else some .other
    | Option.none => some .other

end NeoPG
