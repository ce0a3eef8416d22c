import NeoPG.Keyserver.Import

/-!
# The descriptor arrays of `keyserver_import` and `keyidlist`

`Import.lean` models `keyserver_import` and `keyidlist` by the lists of descriptors they build.
The code builds them in arrays.  Both functions start with an array of `num = 100` elements and
store each descriptor at `desc[count]`.  Then `count++`, and when `count == num` they set
`num += 100` and `xrealloc` the array (`xrealloc` does not return when it fails).  `count` and
`num` are `int`s.  `keyserver_import` stores through `classify_user_id (user, &desc[count], 1)`
for every user string, and counts the descriptor only when its mode is a key id.  `keyidlist`
stores only for a keyblock with a public key.  Before its walk, `keyidlist` also classifies the
user strings into a second array of `users.size ()` elements, at `desc + ndesc`, for
`keydb_search`.

This module writes both functions with their arrays: a store at or past an array's end is a
fault, and so is an `int` counter past `INT_MAX`.

* **`keyserverImport_keyidlist_arrays`**: for fewer than `2^31 - 100` user strings and
  keyblocks, no store leaves its array and no counter overflows.  The arrays hold exactly what
  the list models say: `keyserver_import` hands `keyserver_get` the array of
  `keyserverImportDesc`, and `keyidlist` returns what `keyidlist` returns.  `keydb_search` gets
  `FIRST` when there is no user string, and otherwise the strings that classify.  That list is
  empty when none of them does.
-/

namespace NeoPG

/-- A descriptor array as `keyserver_import` and `keyidlist` grow it: `num` elements allocated,
and the `count` descriptors counted so far, `stored`. -/
structure GrowArray where
  num : Nat
  stored : List KeydbSearchDesc

/-- The array as first allocated: `xmalloc (sizeof (KEYDB_SEARCH_DESC) * num)`, `num = 100`. -/
def GrowArray.init : GrowArray := ⟨100, []⟩

/-- A store at `desc[count]`, a fault at or past `num`; then, for a descriptor that counts,
`count++` and `if (count == num) { num += 100; desc = xrealloc (...) }`, either `int` going past
`INT_MAX` being an overflow. -/
def GrowArray.put (a : GrowArray) (d : Option KeydbSearchDesc) : Except Fault GrowArray :=
  if a.stored.length < a.num then
    match d with
    | none => .ok a
    | some d =>
      if 2 ^ 31 ≤ a.stored.length + 1 then .error .signedOverflow
      else if a.stored.length + 1 = a.num then
        if 2 ^ 31 ≤ a.num + 100 then .error .signedOverflow
        else .ok ⟨a.num + 100, a.stored ++ [d]⟩
      else .ok ⟨a.num, a.stored ++ [d]⟩
  else .error .storeOutOfBounds

/-- The loop of `keyserver_import` over the user strings: every string is classified into
`desc[count]`, and counted when it is a key id. -/
def keyserverImportLoop (classify : CStr → Option KeydbSearchDesc) (a : GrowArray) :
    List CStr → Except Fault GrowArray
  | [] => .ok a
  | user :: rest =>
    (a.put ((classify user).filter KeydbSearchDesc.isKeyId)).bind fun a =>
      keyserverImportLoop classify a rest

/-- `keyserver_import (ctrl, users)` with its array: the first `count` descriptors it hands
`keyserver_get`, or none when `count` is `0`. -/
def keyserverImportArray (classify : CStr → Option KeydbSearchDesc) (users : List CStr) :
    Except Fault (Option (List KeydbSearchDesc)) :=
  (keyserverImportLoop classify .init users).map fun a =>
    if 0 < a.stored.length then some a.stored else none

/-- The loop of `keyidlist` over the user strings, into an array of `size` elements:
`classify_user_id (user, desc + ndesc, 1)`, and `ndesc++` when it succeeds. -/
def keyidlistSearchLoop (classify : CStr → Option KeydbSearchDesc) (size : Nat)
    (descs : List KeydbSearchDesc) : List CStr → Except Fault (List KeydbSearchDesc)
  | [] => .ok descs
  | user :: rest =>
    if descs.length < size then
      match classify user with
      | some d =>
        if 2 ^ 31 ≤ descs.length + 1 then .error .signedOverflow
        else keyidlistSearchLoop classify size (descs ++ [d]) rest
      | none => keyidlistSearchLoop classify size descs rest
    else .error .storeOutOfBounds

/-- The descriptors `keyidlist` hands `keydb_search`: one `FIRST` (turned into `NEXT` after the
first search) when there is no user string, and otherwise the user strings classified into an
array of `users.size ()` elements. -/
def keyidlistSearchDesc (classify : CStr → Option KeydbSearchDesc) (users : List CStr) :
    Except Fault (List KeydbSearchDesc) :=
  if users = [] then .ok [.first] else keyidlistSearchLoop classify users.length [] users

/-- The `for (;;)` of `keyidlist`, with `*klist` the array it grows. -/
def keyidlistArrayLoop (last : GpgErr) (a : GrowArray) :
    List (Except GpgErr (Option KeyringKey)) → Except Fault (Except GpgErr (List KeydbSearchDesc))
  | [] => .ok (if last = .notFound then .ok a.stored else .error last)
  | .error e :: _ => .ok (.error e)
  | .ok none :: rest => keyidlistArrayLoop last a rest
  | .ok (some pk) :: rest =>
    (a.put (some (keyringKeyDesc pk))).bind fun a => keyidlistArrayLoop last a rest

/-- `keyidlist (ctrl, users, &klist, &count)` with its arrays.  The search descriptors go to
`keydb_search`, and `walk` gives what that finds. -/
def keyidlistArray (classify : CStr → Option KeydbSearchDesc) (users : List CStr)
    (walk : KeydbWalk) : Except Fault (Except GpgErr (List KeydbSearchDesc)) :=
  match walk.keydbNew with
  | some e => .ok (.error e)
  | none =>
    (keyidlistSearchDesc classify users).bind fun _ =>
      keyidlistArrayLoop walk.last .init walk.blocks

/-! ## One store -/

/-- **A store with room.**  With a free element and a count that stays under `INT_MAX - 100`,
a store succeeds, appends what it counts, and leaves a free element. -/
lemma GrowArray.put_spec {a : GrowArray} (hroom : a.stored.length < a.num)
    (d : Option KeydbSearchDesc) (hint : a.stored.length + 1 + 100 < 2 ^ 31) :
    ∃ a', a.put d = .ok a' ∧ a'.stored = a.stored ++ d.toList ∧ a'.stored.length < a'.num := by
  cases d with
  | none => exact ⟨a, by rw [put, if_pos hroom], by simp, hroom⟩
  | some d =>
    have hcount : ¬2 ^ 31 ≤ a.stored.length + 1 := by omega
    rw [put, if_pos hroom, if_neg hcount]
    split_ifs with hfull hnum
    · omega
    · exact ⟨_, rfl, rfl, by simp; omega⟩
    · exact ⟨_, rfl, rfl, by simp; omega⟩

/-! ## The loops -/

/-- The descriptors `keyserver_import` keeps. -/
def importKept (classify : CStr → Option KeydbSearchDesc) (users : List CStr) :
    List KeydbSearchDesc :=
  users.filterMap fun user => (classify user).filter KeydbSearchDesc.isKeyId

lemma keyserverImportLoop_spec (classify : CStr → Option KeydbSearchDesc) :
    ∀ (users : List CStr) (a : GrowArray), a.stored.length < a.num →
      a.stored.length + users.length + 100 < 2 ^ 31 →
      ∃ a', keyserverImportLoop classify a users = .ok a' ∧
        a'.stored = a.stored ++ importKept classify users
  | [], a, _, _ => ⟨a, rfl, by simp [importKept]⟩
  | user :: rest, a, hroom, hint => by
    simp only [List.length_cons] at hint
    obtain ⟨a₁, hput, hs, hroom₁⟩ :=
      a.put_spec hroom ((classify user).filter KeydbSearchDesc.isKeyId) (by omega)
    have hlen : a₁.stored.length ≤ a.stored.length + 1 := by
      rw [hs, List.length_append]
      cases (classify user).filter KeydbSearchDesc.isKeyId <;> simp
    obtain ⟨a₂, hloop, hs₂⟩ := keyserverImportLoop_spec classify rest a₁ hroom₁ (by omega)
    refine ⟨a₂, by rw [keyserverImportLoop, hput]; exact hloop, ?_⟩
    rw [hs₂, hs, List.append_assoc, importKept, importKept, List.filterMap_cons]
    cases (classify user).filter KeydbSearchDesc.isKeyId <;> rfl

lemma keyidlistSearchLoop_eq (classify : CStr → Option KeydbSearchDesc) (size : Nat) :
    ∀ (users : List CStr) (descs : List KeydbSearchDesc), descs.length + users.length ≤ size →
      descs.length + users.length < 2 ^ 31 →
      keyidlistSearchLoop classify size descs users = .ok (descs ++ users.filterMap classify)
  | [], descs, _, _ => by simp [keyidlistSearchLoop]
  | user :: rest, descs, hsize, hint => by
    simp only [List.length_cons] at hsize hint
    rw [keyidlistSearchLoop, if_pos (by omega)]
    cases h : classify user with
    | none =>
      rw [keyidlistSearchLoop_eq classify size rest descs (by omega) (by omega)]
      simp [List.filterMap_cons, h]
    | some d =>
      dsimp only
      rw [if_neg (by omega),
        keyidlistSearchLoop_eq classify size rest _ (by simp; omega) (by simp; omega)]
      simp [List.filterMap_cons, h]

lemma keyidlistArrayLoop_eq (last : GpgErr) :
    ∀ (blocks : List (Except GpgErr (Option KeyringKey))) (a : GrowArray),
      a.stored.length < a.num → a.stored.length + blocks.length + 100 < 2 ^ 31 →
      keyidlistArrayLoop last a blocks = .ok ((keyidlistLoop last blocks).map (a.stored ++ ·))
  | [], a, _, _ => by
    simp only [keyidlistArrayLoop, keyidlistLoop]
    split_ifs <;> simp [Except.map]
  | .error _ :: _, _, _, _ => rfl
  | .ok none :: rest, a, hroom, hint =>
    keyidlistArrayLoop_eq last rest a hroom (by simp only [List.length_cons] at hint; omega)
  | .ok (some pk) :: rest, a, hroom, hint => by
    simp only [List.length_cons] at hint
    obtain ⟨a₁, hput, hs, hroom₁⟩ := a.put_spec hroom (some (keyringKeyDesc pk)) (by omega)
    rw [keyidlistArrayLoop, hput]
    refine (keyidlistArrayLoop_eq last rest a₁ hroom₁ (by simp [hs]; omega)).trans ?_
    rw [hs, keyidlistLoop]
    cases keyidlistLoop last rest <;> simp [Except.map]

/-! ## The refinement -/

/-- **The arrays refine the lists.**  For every classifier, every list of fewer than
`2^31 - 100` user strings and every keyring walk that finds fewer than `2^31 - 100`
keyblocks: `keyserver_import` stores only inside its array and never overflows `count` or
`num`, and hands `keyserver_get` exactly the descriptors of `keyserverImportDesc`.
`keyidlist` classifies the user strings inside its array of `users.size ()` elements.  It
searches with `FIRST` when there is none, and otherwise with the strings that classify.  It
grows `*klist` without a fault and returns what `keyidlist` returns. -/
theorem keyserverImport_keyidlist_arrays (classify : CStr → Option KeydbSearchDesc)
    (users : List CStr) (walk : KeydbWalk) (husers : users.length + 100 < 2 ^ 31)
    (hblocks : walk.blocks.length + 100 < 2 ^ 31) :
    keyserverImportArray classify users = .ok (keyserverImportDesc classify users) ∧
      keyidlistSearchDesc classify users =
        .ok (if users = [] then [.first] else users.filterMap classify) ∧
      keyidlistArray classify users walk = .ok (keyidlist walk) := by
  have hsearch : keyidlistSearchDesc classify users =
      .ok (if users = [] then [.first] else users.filterMap classify) := by
    unfold keyidlistSearchDesc
    split_ifs
    · rfl
    · exact keyidlistSearchLoop_eq classify _ users [] (by simp) (by simp; omega)
  refine ⟨?_, hsearch, ?_⟩
  · obtain ⟨a, hloop, hs⟩ :=
      keyserverImportLoop_spec classify users .init (by decide) (by simpa [GrowArray.init])
    rw [keyserverImportArray, hloop]
    simp only [Except.map, hs, GrowArray.init, List.nil_append, keyserverImportDesc, importKept]
  · unfold keyidlistArray keyidlist
    cases walk.keydbNew with
    | some e => rfl
    | none =>
      rw [hsearch]
      exact (keyidlistArrayLoop_eq _ _ .init (by decide) (by simpa [GrowArray.init])).trans
        (by cases keyidlistLoop walk.last walk.blocks <;> rfl)

/-- Two user strings, of which only the first is a key id, and a keyring of a v3 key and a
keyblock without a public key. -/
theorem keyserverImport_keyidlist_arrays_mixed :
    keyserverImportArray (fun u => if u = ['k'] then some (.longKid 1 2) else none)
        [['k'], ['x']] = .ok (some [.longKid 1 2]) ∧
      keyidlistSearchDesc (fun u => if u = ['k'] then some (.longKid 1 2) else none)
        [['k'], ['x']] = .ok [.longKid 1 2] ∧
      keyidlistArray (fun u => if u = ['k'] then some (.longKid 1 2) else none) [['k'], ['x']]
        ⟨none, [.ok (some ⟨3, (5, 6), ⟨List.replicate 20 0, rfl⟩⟩), .ok none], .notFound⟩ =
        .ok (.ok [.longKid 5 6]) :=
  let h := keyserverImport_keyidlist_arrays
    (fun u => if u = ['k'] then some (.longKid 1 2) else none) [['k'], ['x']]
    ⟨none, [.ok (some ⟨3, (5, 6), ⟨List.replicate 20 0, rfl⟩⟩), .ok none], .notFound⟩
    (by decide) (by decide)
  ⟨h.1.trans rfl, h.2.1.trans rfl, h.2.2.trans rfl⟩

end NeoPG
