import NeoPG.Keyserver.Import

/-!
# Sending keys: `keyserver_export` and `keyserver_put`

`keyserver_export` weeds the user strings down to those `classify_user_id` takes for a key id
or a fingerprint, and hands them to `keyserver_put`.  That asks the dirmngr for its keyserver,
returning `GPG_ERR_NO_KEYSERVER` when there is none, and then exports and sends each key in
turn.  The loop keeps a single `err`: each key spec sets it, to the export's error when
`export_pubkey_buffer` fails and to the send's outcome otherwise, and the function returns it.
A failed send is logged and reported with `write_status_error`; it is not returned unless its
key spec was the last.

`keyserverPutLoop_append` gives the loop's closed form: the keys sent are those that export,
each with its data, in order, the `k`-th send is the `k`-th key exported, and `err` is the last
key spec's outcome, `specOutcome`.

* **`keyserverPut_last`**: for every non-empty list of key specs and every outcome of the
  exports and sends, `keyserver_put` sends exactly the keys that export, in order, reports a
  status for each failed send, and returns the outcome of the last key spec alone.
-/

namespace NeoPG

/-- The collaborators of `keyserver_put`. -/
structure PutEnv where
  /-- The error of `gpg_dirmngr_ks_list`, if any. -/
  ksList : Option GpgErr
  /-- What `export_pubkey_buffer` makes of a key spec: the key's data, or an error. -/
  exportPubkey : CStr → Except GpgErr (List UInt8)
  /-- The error of the `k`-th `gpg_dirmngr_ks_put` of the call, if any. -/
  ksPut : Nat → Option GpgErr

/-- What `keyserver_put` did. -/
structure PutReport where
  /-- The error returned. -/
  err : Option IoErr
  /-- The keys handed to `gpg_dirmngr_ks_put`, in order: each key spec with its data. -/
  sent : List (CStr × List UInt8)
  /-- The errors `write_status_error ("keyserver_send", err)` reported, in order. -/
  statusErrors : List GpgErr

/-- The loop over the key specs, with `err` as the last key spec left it, the keys sent so far
and the status errors reported so far. -/
def keyserverPutLoop (env : PutEnv) (err : Option GpgErr) (sent : List (CStr × List UInt8))
    (status : List GpgErr) : List CStr → Option GpgErr × List (CStr × List UInt8) × List GpgErr
  | [] => (err, sent, status)
  | kspec :: rest =>
    match env.exportPubkey kspec with
    | .error e => keyserverPutLoop env (some e) sent status rest
    | .ok data =>
      let err := env.ksPut sent.length
      keyserverPutLoop env err (sent ++ [(kspec, data)]) (status ++ err.toList) rest

/-- `keyserver_put (ctrl, keyspecs)`.  `err` is not initialised in the C; the loop sets it
before it is read, since the list is not empty there. -/
def keyserverPut (env : PutEnv) (keyspecs : List CStr) : PutReport :=
  if keyspecs = [] then ⟨none, [], []⟩
  else
    match env.ksList with
    | some _ => ⟨some .noKeyserver, [], []⟩
    | none =>
      let (err, sent, status) := keyserverPutLoop env none [] [] keyspecs
      ⟨err.map .gpg, sent, status⟩

/-- The user strings `keyserver_export` keeps: those `classify_user_id` maps to a key-id or
fingerprint mode, in order. -/
def keyserverExportSpecs (classify : CStr → Option KeydbSearchDesc) (users : List CStr) :
    List CStr :=
  users.filter fun user => ((classify user).filter KeydbSearchDesc.isKeyId).isSome

/-- `keyserver_export (ctrl, users)`: nothing is sent, and `0` returned, when no user string is
a key id. -/
def keyserverExport (classify : CStr → Option KeydbSearchDesc) (env : PutEnv)
    (users : List CStr) : PutReport :=
  let sl := keyserverExportSpecs classify users
  if sl ≠ [] then keyserverPut env sl else ⟨none, [], []⟩

/-! ## The loop's closed form -/

/-- The keys that export, each with its data, in order. -/
def exported (env : PutEnv) (specs : List CStr) : List (CStr × List UInt8) :=
  specs.filterMap fun kspec => (env.exportPubkey kspec).toOption.map (kspec, ·)

/-- What a key spec leaves in `err` when `n` keys were sent before it: its export's error, or
its own send's outcome. -/
def specOutcome (env : PutEnv) (n : Nat) (kspec : CStr) : Option GpgErr :=
  match env.exportPubkey kspec with
  | .error e => some e
  | .ok _ => env.ksPut n

@[simp] lemma exported_nil (env : PutEnv) : exported env [] = [] := rfl

lemma exported_cons_error {env : PutEnv} {kspec : CStr} {e : GpgErr}
    (h : env.exportPubkey kspec = .error e) (rest : List CStr) :
    exported env (kspec :: rest) = exported env rest := by
  simp [exported, List.filterMap_cons, h, Except.toOption]

lemma exported_cons_ok {env : PutEnv} {kspec : CStr} {data : List UInt8}
    (h : env.exportPubkey kspec = .ok data) (rest : List CStr) :
    exported env (kspec :: rest) = (kspec, data) :: exported env rest := by
  simp [exported, List.filterMap_cons, h, Except.toOption]

/-- **The loop's closed form.**  Over `pre` and a last key spec, the loop sends the keys that
export, in order, the `k`-th send being numbered by the keys sent before it, reports each
failed send, and leaves `err` as the last key spec set it. -/
lemma keyserverPutLoop_append (env : PutEnv) (last : CStr) :
    ∀ (pre : List CStr) (err : Option GpgErr) (sent : List (CStr × List UInt8))
      (status : List GpgErr),
      keyserverPutLoop env err sent status (pre ++ [last]) =
        (specOutcome env (sent.length + (exported env pre).length) last,
          sent ++ exported env (pre ++ [last]),
          status ++ (List.range' sent.length (exported env (pre ++ [last])).length).filterMap
            env.ksPut)
  | [], err, sent, status => by
    rcases h : env.exportPubkey last with e | data
    · simp [keyserverPutLoop, h, specOutcome, exported_cons_error h]
    · simp only [List.nil_append, keyserverPutLoop, h, specOutcome, exported_cons_ok h,
        exported_nil, List.length_nil, Nat.add_zero, List.length_singleton, List.range'_one,
        List.filterMap_cons, List.filterMap_nil]
      cases env.ksPut sent.length <;> rfl
  | kspec :: pre, err, sent, status => by
    rcases h : env.exportPubkey kspec with e | data
    · rw [List.cons_append, keyserverPutLoop, h]
      dsimp only
      rw [keyserverPutLoop_append env last pre, exported_cons_error h, exported_cons_error h]
    · rw [List.cons_append, keyserverPutLoop, h]
      dsimp only
      rw [keyserverPutLoop_append env last pre, exported_cons_ok h, exported_cons_ok h]
      simp only [List.length_append, List.length_singleton, List.length_cons, List.length_nil,
        Nat.zero_add, List.append_assoc, List.singleton_append, List.range'_succ,
        List.filterMap_cons, Nat.add_assoc, Nat.add_comm 1]
      cases env.ksPut sent.length <;> rfl

/-! ## The call -/

/-- **`keyserver_put` returns the last key spec's outcome.**  For every non-empty list of key
specs `pre ++ [last]` and every outcome of the exports and the sends, when the dirmngr knows a
keyserver: `keyserver_put` sends exactly the keys whose export succeeds, each with its data, in
order; it reports a status for each failed send; and it returns the outcome of `last` alone,
its export's error, or the error of its send when it exports, whatever happened to the key
specs of `pre`. -/
theorem keyserverPut_last (env : PutEnv) (pre : List CStr) (last : CStr)
    (hlist : env.ksList = none) :
    keyserverPut env (pre ++ [last]) =
      ⟨(specOutcome env (exported env pre).length last).map .gpg,
        exported env (pre ++ [last]),
        (List.range (exported env (pre ++ [last])).length).filterMap env.ksPut⟩ := by
  rw [keyserverPut, if_neg (List.append_ne_nil_of_right_ne_nil _ (List.cons_ne_nil _ _)), hlist]
  dsimp only
  rw [keyserverPutLoop_append, List.length_nil, Nat.zero_add, List.nil_append, List.nil_append,
    List.range_eq_range']

/-- Two keys that export, the first send failing and the second going through: `keyserver_put`
reports the failure as a status and returns success. -/
theorem keyserverPut_last_firstSendFails :
    keyserverPut ⟨none, fun _ => .ok [1], fun k => if k = 0 then some .sys else none⟩
        [['a'], ['b']] =
      ⟨none, [(['a'], [1]), (['b'], [1])], [.sys]⟩ :=
  (keyserverPut_last ⟨none, fun _ => .ok [1], fun k => if k = 0 then some .sys else none⟩
    [['a']] ['b'] rfl).trans rfl

/-- With no key spec, `keyserver_put` sends nothing and returns `0` without asking the dirmngr;
when the dirmngr knows no keyserver, it sends nothing and returns `GPG_ERR_NO_KEYSERVER`. -/
lemma keyserverPut_nil_or_noKeyserver (env : PutEnv) (keyspecs : List CStr) :
    keyserverPut env [] = ⟨none, [], []⟩ ∧
      (keyspecs ≠ [] → env.ksList.isSome → keyserverPut env keyspecs = ⟨some .noKeyserver, [], []⟩) := by
  refine ⟨rfl, fun hne hks => ?_⟩
  obtain ⟨e, he⟩ := Option.isSome_iff_exists.mp hks
  rw [keyserverPut, if_neg hne, he]

/-- `keyserver_export` is `keyserver_put` on the user strings that are key ids. -/
lemma keyserverExport_eq (classify : CStr → Option KeydbSearchDesc) (env : PutEnv)
    (users : List CStr) :
    keyserverExport classify env users = keyserverPut env (keyserverExportSpecs classify users) := by
  unfold keyserverExport
  dsimp only
  split_ifs with h
  · rfl
  · rw [not_not.mp h]
    rfl

end NeoPG
