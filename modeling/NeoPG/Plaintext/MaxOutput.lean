import NeoPG.Plaintext.HandlePlaintext

/-!
# `--max-output` holds across all calls of a process

`--max-output` guards against decompression bombs: however the input is chunked and whatever
kind of packet arrives, the bytes written must stay within the limit.  The limit is enforced by
a `static` count shared by every `handle_plaintext` call of the process, and each of the five
copy loops charges and checks it before it writes.

`CopyState.Within` is the invariant: every byte handed to an output stream so far, by this call
and by the earlier ones, has been charged to the count, and the total is within the limit.
`guardedWrite_within` is the one step that matters; each loop preserves the invariant by
induction over its own recursion, `handlePlaintext_within` lifts it to a call, and
**`handlePlaintextRun_le_maxOutput`** to any sequence of calls starting from the count's
initial value `0`.
-/

namespace NeoPG

variable {maxOutput : Nat} {base : Nat}

/-- Everything written so far, `base` bytes by earlier calls and `st.written` by this one, has
been charged to the count and is within the limit. -/
def CopyState.Within (maxOutput base : Nat) (st : CopyState) : Prop :=
  base + st.written.length ≤ st.count ∧ base + st.written.length ≤ maxOutput

lemma CopyState.within_hashIf (hasMd : Bool) {st : CopyState} (bytes : List UInt8)
    (h : st.Within maxOutput base) : (st.hashIf hasMd bytes).Within maxOutput base := by
  unfold CopyState.hashIf; split <;> exact h

/-- **The guarded write keeps the invariant**: a write happens only after the count, grown by the
bytes written, was found within the limit. -/
lemma guardedWrite_within (hmax : maxOutput ≠ 0) {write : Nat → Option GpgErr}
    {onFail : GpgErr → GpgErr} {st : CopyState} (bytes : List UInt8)
    (h : st.Within maxOutput base) :
    (guardedWrite maxOutput write onFail st bytes).1.Within maxOutput base := by
  obtain ⟨h1, h2⟩ := h
  unfold guardedWrite
  simp only [ne_eq, hmax, not_false_eq_true, if_true, true_and, gt_iff_lt]
  split_ifs with hlt
  · exact ⟨by simp only; omega, h2⟩
  · simp only [CopyState.Within, List.length_append]
    omega

/-- Going on after a write keeps the invariant when the write and the continuation do. -/
lemma thenWrite_within {r : CopyState × Option GpgErr} {k : CopyState → CopyState × Option GpgErr}
    (hr : r.1.Within maxOutput base)
    (hk : ∀ st : CopyState, st.Within maxOutput base → (k st).1.Within maxOutput base) :
    (thenWrite r k).1.Within maxOutput base := by
  rcases r with ⟨st, _ | e⟩
  · exact hk st hr
  · exact hr

/-- The digest automaton writes nothing and charges nothing. -/
lemma clearsigDigest_within {st : CopyState} (state : ClearsigState) (c : UInt8)
    (h : st.Within maxOutput base) : (clearsigDigest state c st).2.Within maxOutput base := by
  cases state <;> simp only [clearsigDigest, clearsigIdle] <;> split_ifs <;> exact h

section Loops

variable (hmax : maxOutput ≠ 0) (env : PlaintextEnv) (hasMd hasFp : Bool)
include hmax

lemma textCopyLen_within (convert : Char) :
    ∀ (n : Nat) (bytes : List UInt8) (st : CopyState), st.Within maxOutput base →
      (textCopyLen maxOutput env hasMd hasFp convert n bytes st).1.Within maxOutput base
  | 0, _, _, h => h
  | _ + 1, [], _, h => h
  | n + 1, c :: rest, st, h => by
    have h' := CopyState.within_hashIf hasMd [c] h
    have ih := textCopyLen_within convert n rest
    simp only [textCopyLen]
    split_ifs
    · exact ih _ h'
    · exact thenWrite_within (guardedWrite_within hmax [c] h') ih
    · exact ih _ h'

lemma binaryCopyLen_within :
    ∀ (len : Nat) (buf : List (List UInt8)) (st : CopyState), st.Within maxOutput base →
      (binaryCopyLen maxOutput env hasMd hasFp len buf st).1.Within maxOutput base := by
  intro len
  induction len using Nat.strong_induction_on with
  | _ len ih =>
  intro buf st h
  rw [binaryCopyLen]
  split
  · exact h
  · split
    · exact h
    · next bytes rest hr =>
      have hpos := (iobufRead_spec (by omega) _ hr).1
      have h' := CopyState.within_hashIf hasMd bytes h
      have ih' := ih (len - bytes.length) (by omega) rest
      split
      · exact thenWrite_within (guardedWrite_within hmax bytes h') ih'
      · exact ih' _ h'

lemma textCopyAll_within (convert : Char) :
    ∀ (bytes : List UInt8) (st : CopyState), st.Within maxOutput base →
      (textCopyAll maxOutput env hasMd hasFp convert bytes st).1.Within maxOutput base
  | [], _, h => h
  | c :: rest, st, h => by
    have h' := CopyState.within_hashIf hasMd [c] h
    have ih := textCopyAll_within convert rest
    simp only [textCopyAll]
    split_ifs
    · exact ih _ h'
    · exact thenWrite_within (guardedWrite_within hmax [c] h') ih
    · exact ih _ h'

lemma binaryCopyAll_within (buf : List (List UInt8)) (st : CopyState)
    (h : st.Within maxOutput base) :
    (binaryCopyAll maxOutput env hasMd hasFp buf st).1.Within maxOutput base := by
  suffices ∀ n (buf : List (List UInt8)), bufSize buf = n → ∀ st : CopyState,
      st.Within maxOutput base →
      (binaryCopyAll maxOutput env hasMd hasFp buf st).1.Within maxOutput base from
    this _ buf rfl st h
  intro n
  induction n using Nat.strong_induction_on with
  | _ n ih =>
  intro buf hs st h
  rw [binaryCopyAll]
  split
  · exact h
  · next bytes rest hr =>
    have hsz := iobufRead_spec (by decide) _ hr
    have h' := CopyState.within_hashIf hasMd bytes h
    have next : ∀ st' : CopyState, st'.Within maxOutput base →
        (if bytes.length < 32768 then (st', none)
          else binaryCopyAll maxOutput env hasMd hasFp rest st').1.Within maxOutput base := by
      intro st' hst'
      split
      · exact hst'
      · exact ih _ (by omega) rest rfl _ hst'
    dsimp only
    cases hasFp
    · exact next _ h'
    · exact thenWrite_within (guardedWrite_within hmax bytes h') next

lemma clearsigCopy_within :
    ∀ (bytes : List UInt8) (state : ClearsigState) (st : CopyState), st.Within maxOutput base →
      (clearsigCopy maxOutput env hasMd hasFp bytes state st).1.Within maxOutput base
  | [], _, _, h => h
  | c :: rest, state, st, h => by
    simp only [clearsigCopy]
    refine thenWrite_within ?_ fun st' h' => ?_
    · split
      · exact guardedWrite_within hmax [c] h
      · exact h
    · split
      · exact clearsigCopy_within rest _ _ (clearsigDigest_within state c h')
      · exact clearsigCopy_within rest _ _ h'

end Loops

/-- A call keeps the invariant, from the count it started with to the count it leaves. -/
lemma handlePlaintext_within (hmax : maxOutput ≠ 0) (env : PlaintextEnv) {count : Nat}
    (pt : Plaintext) (hasMd nooutput clearsig : Bool) (hc : base ≤ count)
    (hb : base ≤ maxOutput) :
    let r := handlePlaintext maxOutput env count pt hasMd nooutput clearsig
    base + r.written.length ≤ r.count ∧ base + r.written.length ≤ maxOutput := by
  have h0 : (⟨count, [], [], 0⟩ : CopyState).Within maxOutput base := ⟨by simpa using hc, by simpa⟩
  have hcopy : (plaintextCopy maxOutput env pt hasMd (!nooutput) clearsig
      ⟨count, [], [], 0⟩).1.Within maxOutput base := by
    simp only [plaintextCopy]
    split_ifs
    · exact clearsigCopy_within hmax env _ _ _ _ _ h0
    · exact textCopyAll_within hmax env _ _ _ _ _ h0
    · exact binaryCopyAll_within hmax env _ _ _ _ h0
    · exact h0
    · exact h0
    · exact textCopyLen_within hmax env _ _ _ _ _ _ h0
    · exact binaryCopyLen_within hmax env _ _ _ _ _ h0
  simp only [handlePlaintext]
  split
  · exact h0
  · split <;> rename_i heq <;> rw [heq] at hcopy <;> exact hcopy

/-- One call of `handle_plaintext` in a sequence: its environment, packet and flags. -/
structure PlaintextCall where
  env : PlaintextEnv
  pt : Plaintext
  hasMd : Bool
  nooutput : Bool
  clearsig : Bool

/-- The bytes a sequence of `handle_plaintext` calls writes, the static count carried from each
call to the next. -/
def handlePlaintextRun (maxOutput : Nat) : Nat → List PlaintextCall → List UInt8
  | _, [] => []
  | count, c :: cs =>
    let r := handlePlaintext maxOutput c.env count c.pt c.hasMd c.nooutput c.clearsig
    r.written ++ handlePlaintextRun maxOutput r.count cs

lemma handlePlaintextRun_within (hmax : maxOutput ≠ 0) :
    ∀ (calls : List PlaintextCall) (count base : Nat), base ≤ count → base ≤ maxOutput →
      base + (handlePlaintextRun maxOutput count calls).length ≤ maxOutput
  | [], _, _, _, hb => by simpa [handlePlaintextRun] using hb
  | c :: cs, count, base, hc, hb => by
    obtain ⟨h1, h2⟩ := handlePlaintext_within hmax c.env c.pt c.hasMd c.nooutput c.clearsig hc hb
    have := handlePlaintextRun_within hmax cs _ _ h1 h2
    simp only [handlePlaintextRun, List.length_append]
    omega

/-- **`--max-output` bounds the whole process.**  For every sequence of `handle_plaintext` calls
(any packet mode, fixed-length or partial, clear-signed or not, any contents and chunking, any
outcome of the output collaborators), with a limit set, the bytes handed to the output streams
by all calls together never exceed the limit. -/
theorem handlePlaintextRun_le_maxOutput (hmax : maxOutput ≠ 0) (calls : List PlaintextCall) :
    (handlePlaintextRun maxOutput 0 calls).length ≤ maxOutput := by
  simpa using handlePlaintextRun_within hmax calls 0 0 le_rfl (Nat.zero_le _)

/-- One call with a limit of one byte. -/
theorem handlePlaintextRun_le_maxOutput_one :
    (1 : Nat) ≠ 0 ∧
      (handlePlaintextRun 1 0
        [⟨⟨none, fun _ => none, true, true, true⟩, ⟨'b', false, 2, [[7, 8]]⟩, false, false, false⟩]).length ≤ 1 :=
  ⟨by decide, handlePlaintextRun_le_maxOutput (by decide) _⟩

end NeoPG
