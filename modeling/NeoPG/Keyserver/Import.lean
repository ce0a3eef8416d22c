import NeoPG.Search.Safety

/-!
# The callers of `keyserver_get`

Besides the selection prompt of a search, five entry points fetch keys with `keyserver_get`,
each with a descriptor array of its own making:

* `keyserver_import` classifies the user's strings and keeps those of a key-id mode;
* `keyserver_import_name` asks for one `EXACT` name;
* `keyserver_import_fprint` asks for one fingerprint of 16 or 20 bytes, and for any other
  length returns `-1` without fetching;
* `keyserver_import_keyid` asks for one long key id;
* `keyserver_refresh` walks the keyring with `keyidlist`, which turns each key found into a long
  key id (v3) or a 20-byte fingerprint (v4); the `FIRST`, `NEXT` and user descriptors it walks
  with go to `keydb_search` only.

`keyserver_get_chunk` reaches `BUG ()` on a descriptor of any other mode, and `print_keyrec` on a
record without a key id.  **`keyserverGet_callers_noBug`** shows neither is reachable: every
entry point hands `keyserver_get` only descriptors of the modes `keyserver_get_chunk` encodes,
and fetches without a fault whatever its collaborators do; and a search session, whatever the
keyserver sends, never faults with `BUG ()` and selects only key-id descriptors.
-/

namespace NeoPG

variable {S : Type}

/-- Every descriptor of the array an entry point hands `keyserver_get`, if it calls it, has a
mode `keyserver_get_chunk` builds a pattern for. -/
def GetModes (desc : Option (List KeydbSearchDesc)) : Prop :=
  ∀ ds ∈ desc, ∀ d ∈ ds, d.isGetMode

/-- The `keyserver_get` call an entry point makes with the array it built, when it makes one:
the report of the call, or `none` when it returns without fetching. -/
def getWith (chunk : Nat → ChunkEnv S) : Option (List KeydbSearchDesc) →
    Except Fault (Option (GetReport S))
  | none => .ok none
  | some desc => (keyserverGet chunk 0 desc).map some

/-- **`keyserver_get` on encodable modes returns**, whatever the allocations and the transport
do. -/
lemma keyserverGet_ok (chunk : Nat → ChunkEnv S) {desc : List KeydbSearchDesc}
    (h : ∀ d ∈ desc, d.isGetMode) : ∃ g, keyserverGet chunk 0 desc = .ok g :=
  (keyserverGetLoop_ok chunk desc 0 false fun d hd => by
    simp [KeydbSearchDesc.chunkable, h d hd]).imp fun _ hg => hg.1

/-- **An entry point whose array has only encodable modes fetches without a fault.** -/
lemma getWith_ok (chunk : Nat → ChunkEnv S) {desc : Option (List KeydbSearchDesc)}
    (h : GetModes desc) : ∃ r, getWith chunk desc = .ok r := by
  cases desc with
  | none => exact ⟨none, rfl⟩
  | some ds =>
    obtain ⟨g, hg⟩ := keyserverGet_ok chunk (h ds rfl)
    exact ⟨some g, by rw [getWith, hg]; rfl⟩

/-- A one-descriptor array of an encodable mode. -/
lemma GetModes.singleton {d : KeydbSearchDesc} (h : d.isGetMode) : GetModes (some [d]) := by
  rintro ds ⟨⟩ d' hd'
  rw [List.mem_singleton.mp hd']
  exact h

/-! ## The entry points -/

/-- The array `keyserver_import` builds: the users that `classify_user_id` maps to a key-id
mode, in order; it fetches only when there is one. -/
def keyserverImportDesc (classify : CStr → Option KeydbSearchDesc) (users : List CStr) :
    Option (List KeydbSearchDesc) :=
  let desc := users.filterMap fun user => (classify user).filter KeydbSearchDesc.isKeyId
  if 0 < desc.length then some desc else none

/-- `keyserver_import (ctrl, users)`. -/
def keyserverImport (classify : CStr → Option KeydbSearchDesc) (chunk : Nat → ChunkEnv S)
    (users : List CStr) : Except Fault (Option (GetReport S)) :=
  getWith chunk (keyserverImportDesc classify users)

/-- `keyserver_import_name (ctrl, name, ...)`: one `EXACT` descriptor. -/
def keyserverImportName (chunk : Nat → ChunkEnv S) (name : CStr) :
    Except Fault (Option (GetReport S)) :=
  getWith chunk (some [.exact name])

/-- The descriptor `keyserver_import_fprint` builds: `FPR16` or `FPR20` by the length, and none
for its `return -1` on any other length. -/
def keyserverImportFprintDesc (fprint : List UInt8) : Option (List KeydbSearchDesc) :=
  if h : fprint.length = 16 then some [.fpr16 ⟨fprint, h⟩]
  else if h : fprint.length = 20 then some [.fpr20 ⟨fprint, h⟩]
  else none

/-- `keyserver_import_fprint (ctrl, fprint, fprint_len, ...)`. -/
def keyserverImportFprint (chunk : Nat → ChunkEnv S) (fprint : List UInt8) :
    Except Fault (Option (GetReport S)) :=
  getWith chunk (keyserverImportFprintDesc fprint)

/-- `keyserver_import_keyid (ctrl, keyid, ...)`: one `LONG_KID` descriptor. -/
def keyserverImportKeyid (chunk : Nat → ChunkEnv S) (keyid : UInt32 × UInt32) :
    Except Fault (Option (GetReport S)) :=
  getWith chunk (some [.longKid keyid.1 keyid.2])

/-! ## `keyidlist` and `keyserver_refresh` -/

/-- The primary public key of a keyblock, as `keyidlist` reads it. -/
structure KeyringKey where
  version : Nat
  /-- `keyid_from_pk`. -/
  keyid : UInt32 × UInt32
  /-- `fingerprint_from_pk`. -/
  fpr : Mathlib.Vector UInt8 20

/-- The keyring as `keyidlist` walks it: whether `keydb_new` failed; for each `keydb_search` that
finds a keyblock, what `keydb_get_keyblock` returns (an error, or the keyblock's
`PKT_PUBLIC_KEY` if it has one); and the code of the `keydb_search` that ends the walk.  Which
keyblocks the walk finds is the keyring's business. -/
structure KeydbWalk where
  keydbNew : Option GpgErr
  blocks : List (Except GpgErr (Option KeyringKey))
  last : GpgErr

/-- The descriptor `keyidlist` records for a key: a long key id for v3, the fingerprint from v4
on. -/
def keyringKeyDesc (pk : KeyringKey) : KeydbSearchDesc :=
  if pk.version < 4 then .longKid pk.keyid.1 pk.keyid.2 else .fpr20 pk.fpr

/-- The `for (;;)` of `keyidlist` over the keyblocks found. -/
def keyidlistLoop (last : GpgErr) :
    List (Except GpgErr (Option KeyringKey)) → Except GpgErr (List KeydbSearchDesc)
  | [] => if last = .notFound then .ok [] else .error last
  | .error e :: _ => .error e
  | .ok none :: rest => keyidlistLoop last rest
  | .ok (some pk) :: rest => (keyidlistLoop last rest).map (keyringKeyDesc pk :: ·)

/-- `keyidlist (ctrl, users, &klist, &count)`: the list it returns, or its error. -/
def keyidlist (walk : KeydbWalk) : Except GpgErr (List KeydbSearchDesc) :=
  match walk.keydbNew with
  | some e => .error e
  | none => keyidlistLoop walk.last walk.blocks

/-- The collaborators of `keyserver_refresh`, and the two option bits it sets, whose values are
not among the modelled files. -/
structure RefreshEnv (S : Type) where
  walk : KeydbWalk
  /-- The error of `gpg_dirmngr_ks_list`, if any. -/
  ksList : Option GpgErr
  chunk : Nat → ChunkEnv S
  importMergeOnly : Nat
  importFast : Nat

/-- What `keyserver_refresh` did. -/
structure RefreshReport (S : Type) where
  err : Option GpgErr
  /-- The `keyserver_get` call, if it made one. -/
  get : Option (GetReport S)
  /-- `opt.keyserver_options.import_options` when it returns. -/
  importOptions : Nat
  /-- Whether it called `check_or_update_trustdb`. -/
  trustdbChecked : Bool

/-- `keyserver_refresh (ctrl, users)` with `import_options` on entry.  `keyidlist` failing
returns at once; otherwise the keys found are fetched when `gpg_dirmngr_ks_list` succeeds, the
options are restored, and the trust database is checked unless the restored options ask for a
fast import. -/
def keyserverRefresh (env : RefreshEnv S) (importOptions : Nat) :
    Except Fault (RefreshReport S) :=
  let set := importOptions ||| env.importMergeOnly ||| env.importFast
  match keyidlist env.walk with
  | .error e => .ok ⟨some e, none, set, false⟩
  | .ok klist =>
    let finish (err : Option GpgErr) (get : Option (GetReport S)) : RefreshReport S :=
      ⟨err, get, importOptions, importOptions &&& env.importFast == 0⟩
    if 0 < klist.length then
      match env.ksList with
      | some e => .ok (finish (some e) none)
      | none => (keyserverGet env.chunk 0 klist).map fun g => finish g.err (some g)
    else .ok (finish none none)

/-! ## No `BUG ()` from any caller -/

lemma keyserverImportDesc_getModes (classify : CStr → Option KeydbSearchDesc)
    (users : List CStr) : GetModes (keyserverImportDesc classify users) := by
  intro ds hds d hd
  simp only [keyserverImportDesc] at hds
  split_ifs at hds <;> cases hds
  obtain ⟨_, -, hu⟩ := List.mem_filterMap.mp hd
  exact KeydbSearchDesc.isGetMode_of_isKeyId (Option.filter_eq_some.mp hu).2

lemma keyserverImportFprintDesc_getModes (fprint : List UInt8) :
    GetModes (keyserverImportFprintDesc fprint) := by
  intro ds hds d hd
  simp only [keyserverImportFprintDesc] at hds
  split_ifs at hds <;> cases hds <;> rw [List.mem_singleton.mp hd] <;> rfl

/-- Every key `keyidlist` records is a long key id or a 20-byte fingerprint. -/
lemma keyidlistLoop_getModes (last : GpgErr) :
    ∀ (blocks : List (Except GpgErr (Option KeyringKey))) {klist : List KeydbSearchDesc},
      keyidlistLoop last blocks = .ok klist → ∀ d ∈ klist, d.isGetMode
  | [], _, h => by
    simp only [keyidlistLoop] at h
    split_ifs at h
    cases h
    simp
  | .error _ :: _, _, h => by cases h
  | .ok none :: rest, _, h => keyidlistLoop_getModes last rest h
  | .ok (some pk) :: rest, klist, h => by
    simp only [keyidlistLoop] at h
    rcases hr : keyidlistLoop last rest with e | ks <;> rw [hr] at h <;> cases h
    rintro d (_ | ⟨_, hd⟩)
    · unfold keyringKeyDesc
      split_ifs <;> rfl
    · exact keyidlistLoop_getModes last rest hr d hd

lemma keyidlist_getModes {walk : KeydbWalk} {klist : List KeydbSearchDesc}
    (h : keyidlist walk = .ok klist) : ∀ d ∈ klist, d.isGetMode := by
  unfold keyidlist at h
  split at h
  · cases h
  · exact keyidlistLoop_getModes _ _ h

/-- `keyserver_refresh` returns without a fault, whatever the keyring, `gpg_dirmngr_ks_list` and
the transport do. -/
lemma keyserverRefresh_ok (env : RefreshEnv S) (importOptions : Nat) :
    ∃ r, keyserverRefresh env importOptions = .ok r := by
  unfold keyserverRefresh
  rcases hk : keyidlist env.walk with e | klist
  · exact ⟨_, rfl⟩
  · dsimp only
    split_ifs
    · cases env.ksList with
      | some e => exact ⟨_, rfl⟩
      | none =>
        obtain ⟨g, hg⟩ := keyserverGet_ok env.chunk (keyidlist_getModes hk)
        exact ⟨_, by rw [hg]; rfl⟩
    · exact ⟨_, rfl⟩

/-- In a search session, from every reachable state, the handler never faults with `BUG ()`, and
every array fetched at the prompt holds key-id descriptors only. -/
lemma SessionReach.noBug {opts : SearchOpts} {env : SearchEnv S} {work : WorkSlot}
    {st : SearchState} (hr : SessionReach opts env work st) (call : HandlerCall) :
    searchLineHandler opts env work st call ≠ .error .bug ∧
      ∀ w' st' err, searchLineHandler opts env work st call = .ok (w', st', err) →
        ∀ sel e, .get sel e ∈ st'.session.log → ∀ d ∈ sel, d.isKeyId := by
  have hi := hr.sessionInv
  have hok : StepOk opts (searchLineHandler opts env work st call) :=
    searchLineHandler_ok hi.wf hi.inv call
  refine ⟨fun h => ?_, fun w' st' err h sel e he d hd => ?_⟩
  · rw [h] at hok
    rcases hok with ⟨h, -⟩ | h | h <;> cases h
  · rw [h] at hok
    obtain ⟨i, hi, hget⟩ := List.getElem_of_mem he
    have hsafe := hok.2.1 i hi
    rw [hget] at hsafe
    exact hsafe d hd

/-- **`BUG ()` is unreachable from every caller of `keyserver_get` and from `print_keyrec`.**
The arrays that `keyserver_import` (for any user strings and any classifier),
`keyserver_import_name`, `keyserver_import_fprint` (for any length), `keyserver_import_keyid`
and `keyserver_refresh` (for any keyring, through `keyidlist`) hand `keyserver_get` hold only
descriptors of the modes `keyserver_get_chunk` encodes, and each of these entry points fetches
without a fault, for every outcome of the allocations and the transport.  In a search session,
from every state it reaches and whatever the keyserver sends next, the handler never faults
with `BUG ()`, so neither `print_keyrec` nor a fetch at the prompt does, and every array
fetched at the prompt holds key-id descriptors. -/
theorem keyserverGet_callers_noBug (chunk : Nat → ChunkEnv S) :
    (∀ classify users, GetModes (keyserverImportDesc classify users) ∧
      ∃ r, keyserverImport classify chunk users = .ok r) ∧
    (∀ name, GetModes (some [.exact name]) ∧ ∃ r, keyserverImportName chunk name = .ok r) ∧
    (∀ fprint, GetModes (keyserverImportFprintDesc fprint) ∧
      ∃ r, keyserverImportFprint chunk fprint = .ok r) ∧
    (∀ keyid : UInt32 × UInt32, GetModes (some [.longKid keyid.1 keyid.2]) ∧
      ∃ r, keyserverImportKeyid chunk keyid = .ok r) ∧
    (∀ env : RefreshEnv S, (∀ klist, keyidlist env.walk = .ok klist → ∀ d ∈ klist, d.isGetMode) ∧
      ∀ importOptions, ∃ r, keyserverRefresh env importOptions = .ok r) ∧
    (∀ (opts : SearchOpts) (env : SearchEnv S) (work : WorkSlot) (st : SearchState),
      SessionReach opts env work st → ∀ call : HandlerCall,
        searchLineHandler opts env work st call ≠ .error .bug ∧
        ∀ w' st' err, searchLineHandler opts env work st call = .ok (w', st', err) →
          ∀ sel e, .get sel e ∈ st'.session.log → ∀ d ∈ sel, d.isKeyId) :=
  ⟨fun classify users => ⟨keyserverImportDesc_getModes classify users,
      getWith_ok chunk (keyserverImportDesc_getModes classify users)⟩,
    fun _ => ⟨.singleton rfl, getWith_ok chunk (.singleton rfl)⟩,
    fun fprint => ⟨keyserverImportFprintDesc_getModes fprint,
      getWith_ok chunk (keyserverImportFprintDesc_getModes fprint)⟩,
    fun _ => ⟨.singleton rfl, getWith_ok chunk (.singleton rfl)⟩,
    fun env => ⟨fun _ => keyidlist_getModes, keyserverRefresh_ok env⟩,
    fun _ _ _ _ hr => hr.noBug⟩

end NeoPG
