import NeoPG.Util.CString
import NeoPG.Util.Errors

/-!
# Choosing the output of a literal packet: `get_output_file`

`get_output_file` names the output and opens it.  The name is `"[FP]"` when `opt.outfp` is set,
`opt.outfile` when given, and otherwise the name `make_outfile_name` derives from the input
file's, or the user's answer to `ask_outfile_name`.  `opt.outfp` is written to when set, and
stdout when the name is `"-"` (a pipe name) or empty.  Otherwise the file is created with
`es_fopen (fname, "wb")`, which truncates an existing one.  Before that the code asks
`overwrite_filep` whether it may, and while it may not, asks for another name, giving up on an
empty answer.  Secured files are refused with `EPERM`: `opt.outfp` by `is_secured_file`, a named
file by `is_secured_filename`.  The local `nooutput` stays `0`, so its branches are never taken.

The overwrite loop asks the user, so it need not end; the model runs it for `fuel` rounds and
is `none` past them.

* **`getOutputFile_fopen_safe`**: for every configuration, every answer of the user and every
  number of rounds, `es_fopen (fname, "wb")` is called only when `opt.outfp` is not set, with a
  non-empty name that is not secured and that `overwrite_filep` approved in the round the loop
  ended at, after declining a name in each round before it.  A name
  typed at the overwrite prompt is never checked for `"-"`, so `"-"` given there is created as a
  file, where as the first name it means stdout.
-/

namespace NeoPG

/-- The collaborators of `get_output_file`. -/
structure OutputFileEnv where
  /-- `opt.outfp` when it is set, with `is_secured_file (es_fileno (opt.outfp))`. -/
  outfp : Option Bool
  /-- `opt.outfile`. -/
  outfile : Option CStr
  /-- The error of `gpg_error_from_syserror ()` when `xtrystrdup` fails. -/
  strdupFail : Option IoErr
  /-- `make_outfile_name (iobuf_get_real_fname (data))`, when `data` is given and a name comes
  of it. -/
  makeOutfileName : Option CStr
  /-- What the `k`-th `ask_outfile_name (NULL, 0)` of the call returns; `none` is `NULL`. -/
  askOutfileName : Nat → Option CStr
  /-- What the `k`-th `overwrite_filep (fname)` of the call returns. -/
  overwriteFilep : Nat → CStr → Bool
  /-- `iobuf_is_pipe_filename (fname)`. -/
  isPipeFilename : CStr → Bool
  /-- `is_secured_filename (fname)`. -/
  isSecuredFilename : CStr → Bool
  /-- The error of a failed `es_fopen (fname, "wb")`, if it fails. -/
  esFopen : CStr → Option IoErr

/-- The stream `get_output_file` returns in `*fpp`. -/
inductive OutputStream
  /-- `opt.outfp`. -/
  | outfp
  /-- `es_stdout`. -/
  | stdout
  /-- The stream `es_fopen (fname, "wb")` opened. -/
  | file
  deriving DecidableEq, Repr

/-- What `get_output_file` did: its result, the name and the stream on success, and the name it
called `es_fopen (fname, "wb")` with, if it did. -/
structure OutputFileReport where
  result : Except IoErr (CStr × OutputStream)
  fopened : Option CStr

/-- The name, before the overwrite check, with the number of `ask_outfile_name` calls made. -/
def outputFileName (env : OutputFileEnv) : Except IoErr (CStr × Nat) :=
  if env.outfp.isSome then
    match env.strdupFail with
    | some e => .error e
    | none => .ok ("[FP]".toList, 0)
  else
    match env.outfile with
    | some outfile =>
      match env.strdupFail with
      | some e => .error e
      | none => .ok (outfile, 0)
    | none =>
      match env.makeOutfileName with
      | some fname => .ok (fname, 0)
      | none =>
        match env.askOutfileName 0 with
        | some fname => .ok (fname, 1)
        | none => .error (.gpg .general)

/-- `while (!overwrite_filep (fname))`, for at most `fuel` rounds: the `k`-th check, then the
`asked`-th `ask_outfile_name` for a new name, an empty one or `NULL` ending the call with
`GPG_ERR_GENERAL`. -/
def overwriteLoop (env : OutputFileEnv) : Nat → Nat → Nat → CStr → Option (Except IoErr CStr)
  | 0, _, _, _ => none
  | fuel + 1, k, asked, fname =>
    if env.overwriteFilep k fname then some (.ok fname)
    else
      match env.askOutfileName asked with
      | none => some (.error (.gpg .general))
      | some tmp =>
        if tmp.isEmpty then some (.error (.gpg .general))
        else overwriteLoop env fuel (k + 1) (asked + 1) tmp

/-- `get_output_file (data, &fname, &fp)`, its overwrite loop run for at most `fuel` rounds. -/
def getOutputFile (env : OutputFileEnv) (fuel : Nat) : Option OutputFileReport :=
  match outputFileName env with
  | .error e => some ⟨.error e, none⟩
  | .ok (fname, asked) =>
    match env.outfp with
    | some secured => some ⟨if secured then .error .eperm else .ok (fname, .outfp), none⟩
    | none =>
      if env.isPipeFilename fname || fname.isEmpty then some ⟨.ok (fname, .stdout), none⟩
      else
        (overwriteLoop env fuel 0 asked fname).map fun
          | .error e => ⟨.error e, none⟩
          | .ok fname =>
            if env.isSecuredFilename fname then ⟨.error .eperm, none⟩
            else
              match env.esFopen fname with
              | some e => ⟨.error e, some fname⟩
              | none => ⟨.ok (fname, .file), some fname⟩

/-! ## The overwrite loop -/

/-- **The loop leaves only with an approved name.**  A name the loop ends with is non-empty
when it started so, and the round it ended at, one of the `fuel` rounds from `k`, approved it,
every round before it having declined a name. -/
lemma overwriteLoop_ok (env : OutputFileEnv) :
    ∀ (fuel k asked : Nat) (fname name : CStr), fname ≠ [] →
      overwriteLoop env fuel k asked fname = some (.ok name) →
      name ≠ [] ∧ ∃ j, k ≤ j ∧ j < k + fuel ∧
        (∀ i, k ≤ i → i < j → ∃ n, env.overwriteFilep i n = false) ∧
        env.overwriteFilep j name = true
  | 0, _, _, _, _, _, h => by cases h
  | fuel + 1, k, asked, fname, name, hne, h => by
    rw [overwriteLoop] at h
    split_ifs at h with hover
    · obtain rfl := Except.ok.inj (Option.some.inj h)
      exact ⟨hne, k, le_rfl, by omega, fun i hi hij => absurd hij (by omega), hover⟩
    · split at h
      · cases h
      · split_ifs at h with hempty
        · cases h
        · obtain ⟨hname, j, hkj, hjf, hdecl, happ⟩ := overwriteLoop_ok env fuel (k + 1)
            (asked + 1) _ name (fun h' => hempty (List.isEmpty_iff.mpr h')) h
          refine ⟨hname, j, by omega, by omega, fun i hki hij => ?_, happ⟩
          rcases Nat.eq_or_lt_of_le hki with rfl | hki
          · exact ⟨fname, Bool.eq_false_iff.mpr hover⟩
          · exact hdecl i hki hij

/-! ## The file opened -/

/-- **`es_fopen (fname, "wb")` only on an approved, unsecured name.**  For every configuration,
every answer of the user and every number of rounds, when `get_output_file` calls
`es_fopen (fname, "wb")` on `name`: `opt.outfp` is not set, `name` is not empty,
`overwrite_filep` approved it in one of the call's rounds, each round before it having declined
a name, and `is_secured_filename` does not flag it. -/
theorem getOutputFile_fopen_safe (env : OutputFileEnv) (fuel : Nat) (r : OutputFileReport)
    (name : CStr) (hr : getOutputFile env fuel = some r) (hname : r.fopened = some name) :
    env.outfp = none ∧ name ≠ [] ∧
      (∃ k < fuel, (∀ j < k, ∃ n, env.overwriteFilep j n = false) ∧
        env.overwriteFilep k name = true) ∧
      env.isSecuredFilename name = false := by
  unfold getOutputFile at hr
  split at hr
  · obtain rfl := Option.some.inj hr
    cases hname
  · rename_i fname asked _
    split at hr
    · obtain rfl := Option.some.inj hr
      cases hname
    · rename_i houtfp
      split_ifs at hr with hpipe
      · obtain rfl := Option.some.inj hr
        cases hname
      · have hne : fname ≠ [] := fun h => hpipe (by simp [h])
        obtain ⟨res, hloop, rfl⟩ := Option.map_eq_some'.mp hr
        rcases res with e | fname'
        · cases hname
        · obtain ⟨hne', k, -, hk, hdecl, happ⟩ :=
            overwriteLoop_ok env fuel 0 asked fname fname' hne hloop
          dsimp only at hname
          -- a secured name returns with `fopened = none`, which `split_ifs` discards
          split_ifs at hname with hsec
          have hname' : fname' = name := by
            split at hname <;> exact Option.some.inj hname
          subst hname'
          exact ⟨houtfp, hne', ⟨k, by omega, fun j hj => hdecl j (Nat.zero_le j) hj, happ⟩,
            Bool.eq_false_iff.mpr hsec⟩

/-- A file `out.txt` exists; the user declines to overwrite it and answers `-` at the prompt. -/
def declinedOverwrite : OutputFileEnv :=
  ⟨none, none, none, some "out.txt".toList, fun _ => some ['-'], fun k _ => k ≠ 0,
    fun n => n = ['-'], fun _ => false, fun _ => none⟩

/-- `es_fopen` creates a file named `-` after the second overwrite check approves it, where `-`
as the first name means stdout. -/
theorem getOutputFile_fopen_safe_dash :
    getOutputFile declinedOverwrite 2 = some ⟨.ok (['-'], .file), some ['-']⟩ ∧
      ∃ k < 2, (∀ j < k, ∃ n, declinedOverwrite.overwriteFilep j n = false) ∧
        declinedOverwrite.overwriteFilep k ['-'] = true :=
  ⟨rfl, (getOutputFile_fopen_safe declinedOverwrite 2 ⟨.ok (['-'], .file), some ['-']⟩ ['-']
    rfl rfl).2.2.1⟩

end NeoPG
