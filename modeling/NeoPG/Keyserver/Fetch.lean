import NeoPG.Keyserver.Import

/-!
# The import options around a refresh or a fetch

`keyserver_refresh` and `keyserver_fetch` switch bits of `opt.keyserver_options.import_options`
on for the imports they make and restore the value they saved on entry before they return:
`keyserver_refresh` sets `IMPORT_MERGE_ONLY`, "as 'refresh' should never import new keys", and
`IMPORT_FAST`, so that the trust database is checked once at the end; `keyserver_fetch` sets
`IMPORT_FAST`.  The options are process-wide, so a bit left set changes every later import.

`keyserver_fetch` loops over its URIs, imports what `gpg_dirmngr_ks_fetch` returns and logs the
failures, and restores the options after the loop in every case.  `keyserver_refresh` returns
at once when `keyidlist` fails, between setting the bits and restoring them.

**`keyserverFetch_keyserverRefresh_importOptions`** says what each returns with: `keyserver_fetch`
the options it was entered with, whatever each fetch does; `keyserver_refresh` those options
when `keyidlist` succeeds, whatever the dirmngr and the transport do, and the options with both
bits set when it fails.  `keyserverFetch_afterRefresh` shows the bits reaching the next fetch's
imports.
-/

namespace NeoPG

variable {S : Type}

/-- The collaborators of `keyserver_fetch`, and the option bit it sets. -/
structure FetchEnv (S : Type) where
  /-- What `gpg_dirmngr_ks_fetch` returns for the `k`-th URI: a key stream, or an error. -/
  ksFetch : Nat → Except GpgErr S
  /-- `IMPORT_FAST`. -/
  importFast : Nat

/-- What `keyserver_fetch` did. -/
structure FetchReport (S : Type) where
  /-- The key streams handed to `import_keys_es_stream`, each with the import options passed. -/
  imports : List (S × Nat)
  /-- `opt.keyserver_options.import_options` when it returns. -/
  importOptions : Nat
  /-- Whether it called `check_or_update_trustdb`. -/
  trustdbChecked : Bool

/-- The loop over the URIs from the `k`-th on, with `options` in force: a stream that arrives is
imported, a failed fetch only logged. -/
def keyserverFetchLoop (env : FetchEnv S) (options : Nat) (k : Nat) : List CStr → List (S × Nat)
  | [] => []
  | _ :: rest =>
    (match env.ksFetch k with
      | .ok s => [(s, options)]
      | .error _ => []) ++ keyserverFetchLoop env options (k + 1) rest

/-- `keyserver_fetch (ctrl, urilist)` with `import_options` on entry.  It always returns `0`. -/
def keyserverFetch (env : FetchEnv S) (importOptions : Nat) (urilist : List CStr) :
    FetchReport S :=
  let saveOptions := importOptions
  let imports := keyserverFetchLoop env (importOptions ||| env.importFast) 0 urilist
  ⟨imports, saveOptions, saveOptions &&& env.importFast == 0⟩

/-- Every import a fetch makes runs with the options it was entered with and `IMPORT_FAST`. -/
lemma keyserverFetchLoop_options (env : FetchEnv S) (options : Nat) :
    ∀ (k : Nat) (urilist : List CStr), ∀ i ∈ keyserverFetchLoop env options k urilist,
      i.2 = options
  | _, [] => by simp [keyserverFetchLoop]
  | k, _ :: rest => by
    intro i hi
    rw [keyserverFetchLoop, List.mem_append] at hi
    rcases hi with hi | hi
    · split at hi
      · simp_all
      · cases hi
    · exact keyserverFetchLoop_options env options (k + 1) rest i hi

/-- **The import options on return.**  `keyserver_fetch` returns with the import options it was
entered with, for every outcome of its fetches.  `keyserver_refresh` returns without a fault,
with the options it was entered with when `keyidlist` succeeds, whatever `gpg_dirmngr_ks_list`,
`keyserver_get` and the imports do; when `keyidlist` fails it returns with `IMPORT_MERGE_ONLY`
and `IMPORT_FAST` set. -/
theorem keyserverFetch_keyserverRefresh_importOptions (fenv : FetchEnv S) (env : RefreshEnv S)
    (importOptions : Nat) (urilist : List CStr) :
    (keyserverFetch fenv importOptions urilist).importOptions = importOptions ∧
      ∃ r, keyserverRefresh env importOptions = .ok r ∧
        r.importOptions =
          match keyidlist env.walk with
          | .ok _ => importOptions
          | .error _ => importOptions ||| env.importMergeOnly ||| env.importFast := by
  refine ⟨rfl, ?_⟩
  obtain ⟨r, hr⟩ := keyserverRefresh_ok env importOptions
  refine ⟨r, hr, ?_⟩
  unfold keyserverRefresh at hr
  rcases hk : keyidlist env.walk with e | klist <;> rw [hk] at hr
  · cases hr; rfl
  · dsimp only at hr
    split_ifs at hr
    · cases hks : env.ksList <;> rw [hks] at hr
      · cases hg : keyserverGet env.chunk 0 klist <;> rw [hg] at hr <;> cases hr
        rfl
      · cases hr; rfl
    · cases hr; rfl

/-- A refresh entered with no import option set, whose `keydb_new` fails, returns with
`IMPORT_MERGE_ONLY` and `IMPORT_FAST` (here the bits `16` and `4`) set; a fetch made after it
then imports with merge-only on, so that it imports no new key. -/
lemma keyserverFetch_afterRefresh (chunk : Nat → ChunkEnv Unit) :
    keyserverRefresh ⟨⟨some .sys, [], .notFound⟩, none, chunk, 16, 4⟩ 0 =
        .ok ⟨some .sys, none, 20, false⟩ ∧
      (keyserverFetch ⟨fun _ => .ok (), 4⟩ 20 [['u']]).imports = [((), 20)] := by
  have h : (0 ||| 16 ||| 4 : Nat) = 20 := by decide
  exact ⟨by simp only [keyserverRefresh, keyidlist, h], rfl⟩

end NeoPG
