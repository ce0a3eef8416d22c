import NeoPG.Plaintext.HandlePlaintext

/-!
# What the clear-signature loop hashes

`handle_plaintext`'s clear-signature branch ("Clear text signature - don't hash the last
CR,LF") writes every byte it reads and feeds the digest through the three-state automaton
`clearsigDigest`: a CR or an LF is held back until the next byte shows what it is, and a line
end is hashed as CR LF only once a byte follows it.

`crlfCanon` is the canonical form `C`: an LF not preceded by CR becomes CR LF, and every other
byte is kept, a CR not followed by LF included.  `clearsigCanon` is what the digest of a
clear-text signature is meant to cover: `C (s)` without the line end that ends `s`, if any.

The automaton's state after a prefix depends only on the prefix's last byte
(`ClearsigState.ofLast`), and what it holds back is the part of `C` that the next byte decides
(`ClearsigState.held`): nothing, a CR, or the CR LF of a line end.

* **`clearsigDigest_ofLast`** is the step lemma: the bytes hashed followed by those held back
  grow by `C` of one more byte.
* **`clearsigCopy_hashed`** is the run lemma for a loop that ends without error, and
  `clearsigCopy_ok` says when it does.
* **`handlePlaintext_clearsig`** is the call: the digest sees `C (s)` without what the automaton
  holds back at the end.  After a trailing LF or CR LF that is `clearsigCanon s`; after a
  trailing lone CR it is `clearsigCanon s` without that CR, although a lone CR anywhere else is
  hashed.
-/

namespace NeoPG

/-! ## The canonical form -/

/-- One byte of `C`, after the byte `prev`: an LF that does not follow a CR becomes CR LF. -/
def crlfByte (prev : Option UInt8) (c : UInt8) : List UInt8 :=
  if c = 10 ∧ prev ≠ some 13 then [13, 10] else [c]

/-- `C` of the bytes `s` that follow the byte `prev`. -/
def crlfAfter : Option UInt8 → List UInt8 → List UInt8
  | _, [] => []
  | prev, c :: s => crlfByte prev c ++ crlfAfter (some c) s

/-- The canonical form `C (s)`: every LF not preceded by CR written as CR LF, every other byte
kept, a CR that no LF follows included. -/
def crlfCanon (s : List UInt8) : List UInt8 := crlfAfter none s

/-- What the digest of a clear-text signature over `s` should cover: `C (s)` with one final line
end removed when `s` ends with one.  A trailing LF or CR LF is the CR LF that ends `C (s)`. -/
def clearsigCanon (s : List UInt8) : List UInt8 :=
  if s.getLast? = some 10 then (crlfCanon s).dropLast.dropLast else crlfCanon s

example : clearsigCanon [97, 10, 98, 13, 10] = [97, 13, 10, 98] := by decide

/-! ## The automaton after a prefix -/

/-- The automaton's state after a prefix whose last byte is `last`: a CR pending after a CR, a
line end pending after an LF, nothing pending otherwise. -/
def ClearsigState.ofLast (last : Option UInt8) : ClearsigState :=
  if last = some 13 then .cr else if last = some 10 then .eol else .idle

/-- The bytes of `C` a state holds back: nothing, the CR, or the CR LF of the pending line
end. -/
def ClearsigState.held : ClearsigState → List UInt8
  | .idle => []
  | .cr => [13]
  | .eol => [13, 10]

/-- **One byte.**  From the state after a prefix ending in `last`, the digest automaton moves to
the state after `c`; the bytes it hashes, followed by those it then holds back, are those it
held back followed by `C` of `c`. -/
lemma clearsigDigest_ofLast (last : Option UInt8) (c : UInt8) (st : CopyState) :
    ∃ δ, clearsigDigest (.ofLast last) c st = (.ofLast (some c), st.hash δ) ∧
      (ClearsigState.ofLast last).held ++ crlfByte last c =
        δ ++ (ClearsigState.ofLast (some c)).held := by
  -- the byte is an LF, a CR or another byte; the one before it a CR, an LF or anything else
  have hc : c = 10 ∨ c = 13 ∨ (c ≠ 10 ∧ c ≠ 13) := by tauto
  have hl : last = some 13 ∨ last = some 10 ∨ (last ≠ some 13 ∧ last ≠ some 10) := by tauto
  rcases hc with rfl | rfl | ⟨c10, c13⟩ <;> rcases hl with rfl | rfl | ⟨l13, l10⟩ <;>
    simp [ClearsigState.ofLast, clearsigDigest, clearsigIdle, ClearsigState.held, crlfByte, *]

/-! ## The loop -/

section Copy

variable (maxOutput : Nat) (env : PlaintextEnv) (hasFp : Bool)

/-- The write at the head of a turn, when it lets the loop go on: the byte is written when there
is an output, and nothing is hashed. -/
lemma clearsigWrite_ok {st st₁ : CopyState} {c : UInt8}
    (h : (if hasFp then guardedWrite maxOutput env.write (fun _ => .sys) st [c]
      else (st, none)) = (st₁, none)) :
    st₁.hashed = st.hashed ∧ st₁.written = st.written ++ (if hasFp then [c] else []) := by
  split at h
  · simp only [guardedWrite] at h
    split_ifs at h <;> obtain ⟨rfl, h⟩ := Prod.mk.inj h <;> simp_all
  · cases h
    simp_all

/-- **The run.**  A clear-signature loop that ends without error, started after a prefix ending
in `last`: the bytes it hashed, followed by those it holds back at the end, are those held back
at the start followed by `C` of the bytes read; and it wrote every byte read when there is an
output. -/
lemma clearsigCopy_hashed :
    ∀ (s : List UInt8) (last : Option UInt8) {st st' : CopyState},
      clearsigCopy maxOutput env true hasFp s (.ofLast last) st = (st', none) →
      st'.hashed ++ (ClearsigState.ofLast ((s.getLast?).or last)).held =
          st.hashed ++ (ClearsigState.ofLast last).held ++ crlfAfter last s ∧
        st'.written = st.written ++ (if hasFp then s else [])
  | [], last, st, st', h => by cases h; simp [crlfAfter]
  | c :: s, last, st, st', h => by
    rw [clearsigCopy] at h
    rcases hw : (if hasFp then guardedWrite maxOutput env.write (fun _ => .sys) st [c]
      else (st, none)) with ⟨st₁, _ | e⟩
    · rw [hw] at h
      obtain ⟨δ, hd, hδ⟩ := clearsigDigest_ofLast last c st₁
      simp only [thenWrite, if_true, hd] at h
      obtain ⟨ih₁, ih₂⟩ := clearsigCopy_hashed s (some c) h
      obtain ⟨hw₁, hw₂⟩ := clearsigWrite_ok maxOutput env hasFp hw
      refine ⟨?_, ?_⟩
      · rw [getLast?_cons_or, ih₁, crlfAfter, CopyState.hash_hashed, hw₁]
        simp only [List.append_assoc, ← hδ]
      · rw [ih₂, CopyState.hash_written, hw₂]
        cases hasFp <;> simp
    · rw [hw] at h
      cases h

/-- The loop ends without error when every write is within the limit and succeeds. -/
lemma clearsigCopy_ok :
    ∀ (s : List UInt8) (last : Option UInt8) (st : CopyState),
      (hasFp → (maxOutput = 0 ∨ st.count + s.length ≤ maxOutput) ∧
        ∀ k < s.length, env.write (st.writes + k) = none) →
      (clearsigCopy maxOutput env true hasFp s (.ofLast last) st).2 = none
  | [], _, _, _ => rfl
  | c :: s, last, st, hok => by
    rw [clearsigCopy]
    have hw : (if hasFp then guardedWrite maxOutput env.write (fun _ => .sys) st [c]
        else (st, none)) =
        (if hasFp then { st with
            count := if maxOutput ≠ 0 then st.count + 1 else st.count
            written := st.written ++ [c]
            writes := st.writes + 1 } else st, none) := by
      cases hasFp with
      | false => rfl
      | true =>
        obtain ⟨hlim, hwr⟩ := hok rfl
        have h0 := hwr 0 (by simp)
        simp only [Nat.add_zero] at h0
        simp only [if_true, guardedWrite, List.length_singleton, h0, Option.map_none']
        rw [if_neg (by simp only [List.length_cons] at hlim; split_ifs <;> omega)]
    rw [hw]
    obtain ⟨δ, hd, -⟩ := clearsigDigest_ofLast last c
      (if hasFp then { st with
          count := if maxOutput ≠ 0 then st.count + 1 else st.count
          written := st.written ++ [c]
          writes := st.writes + 1 } else st)
    simp only [thenWrite, if_true, hd]
    refine clearsigCopy_ok s (some c) _ fun hfp => ?_
    obtain ⟨hlim, hwr⟩ := hok hfp
    simp only [hfp, if_true, CopyState.hash_count, CopyState.hash_writes]
    refine ⟨?_, fun k hk => ?_⟩
    · simp only [List.length_cons] at hlim
      split_ifs <;> omega
    · rw [Nat.add_assoc, Nat.add_comm 1 k]
      exact hwr (k + 1) (by simp only [List.length_cons]; omega)

end Copy

/-! ## The call -/

/-- After `s`, the digest has seen `C (s)` without the part the automaton holds back: the CR LF
of a trailing LF or CR LF, or a trailing lone CR. -/
lemma hashed_of_held {s hashed : List UInt8}
    (h : hashed ++ (ClearsigState.ofLast s.getLast?).held = crlfCanon s) :
    hashed = if s.getLast? = some 13 then (clearsigCanon s).dropLast else clearsigCanon s := by
  unfold clearsigCanon
  rcases hl : s.getLast? with _ | c <;> rw [hl] at h
  · simpa [ClearsigState.ofLast, ClearsigState.held] using h
  · by_cases h13 : c = 13
    · subst h13
      simp [ClearsigState.ofLast, ClearsigState.held, ← h]
    · by_cases h10 : c = 10
      · subst h10
        simp [ClearsigState.ofLast, ClearsigState.held, ← h]
      · simpa [ClearsigState.ofLast, ClearsigState.held, h13, h10] using h

/-- **The clear-signature branch.**  For a partial packet with a digest, on whatever bytes `s`
the buffer holds: when the call returns no error, the digest got `clearsigCanon s`, except that
a trailing lone CR is not hashed either, and the output got `s` unless there is none.  It
returns no error when the output opens and closes, the limit leaves room for `s`, every write
succeeds and stdout flushes. -/
theorem handlePlaintext_clearsig (maxOutput : Nat) (env : PlaintextEnv) (count : Nat)
    (pt : Plaintext) (nooutput : Bool) (hpart : pt.isPartial = true) :
    let r := handlePlaintext maxOutput env count pt true nooutput true
    let s := pt.buf.flatten
    (r.err = none →
      r.hashed = (if s.getLast? = some 13 then (clearsigCanon s).dropLast else clearsigCanon s) ∧
      r.written = if nooutput then [] else s) ∧
    ((nooutput ∨ env.outputFile = none ∧ env.closeOk ∧
        (maxOutput = 0 ∨ count + s.length ≤ maxOutput) ∧ ∀ k < s.length, env.write k = none) →
      env.flushOk → r.err = none) := by
  have hcopy : ∀ st, plaintextCopy maxOutput env pt true (!nooutput) true st =
      clearsigCopy maxOutput env true (!nooutput) pt.buf.flatten (.ofLast none) st := by
    intro st
    simp [plaintextCopy, hpart, ClearsigState.ofLast]
  refine ⟨fun herr => ?_, fun hcond hflush => ?_⟩
  · obtain ⟨st, hst, hh, hw⟩ := handlePlaintext_of_err_none herr
    rw [hcopy] at hst
    obtain ⟨h₁, h₂⟩ := clearsigCopy_hashed maxOutput env (!nooutput) _ none hst
    simp only [Option.or_none, ClearsigState.ofLast, ClearsigState.held, List.append_nil] at h₁
    refine ⟨hh.trans (hashed_of_held ?_), hw.trans ?_⟩
    · simpa [ClearsigState.ofLast] using h₁
    · cases nooutput <;> simpa using h₂
  · have hok : (plaintextCopy maxOutput env pt true (!nooutput) true ⟨count, [], [], 0⟩).2 =
        none := by
      rw [hcopy]
      refine clearsigCopy_ok maxOutput env _ _ none _ fun hfp => ?_
      have hc : env.outputFile = none ∧ env.closeOk ∧
          (maxOutput = 0 ∨ count + pt.buf.flatten.length ≤ maxOutput) ∧
          ∀ k < pt.buf.flatten.length, env.write k = none := by
        cases nooutput <;> simp_all
      simpa using hc.2.2
    exact handlePlaintext_err_none (hcond.imp_right (·.1)) (hcond.imp_right (·.2.1)) hok hflush

/-- On the bytes `a` CR, with every collaborator succeeding, the call returns no error and hashes
`a` alone, where `C` of them minus a final line end is `a` CR. -/
theorem handlePlaintext_clearsig_loneCr :
    let r := handlePlaintext 0 ⟨none, fun _ => none, true, true, true⟩ 0
      ⟨'t', true, 0, [[97, 13]]⟩ true false true
    r.err = none ∧ r.hashed = [97] ∧ clearsigCanon [97, 13] = [97, 13] := by
  have h := handlePlaintext_clearsig 0 ⟨none, fun _ => none, true, true, true⟩ 0
    ⟨'t', true, 0, [[97, 13]]⟩ false rfl
  have herr := h.2 (.inr ⟨rfl, rfl, .inl rfl, fun _ _ => rfl⟩) rfl
  exact ⟨herr, (h.1 herr).1.trans (by decide), by decide⟩

end NeoPG
