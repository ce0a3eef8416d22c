import NeoPG.Plaintext.HandlePlaintext

/-!
# What `handle_plaintext` writes and hashes

`handle_plaintext` is a transformation: it takes the body of a literal data packet and hands
one version of it to the output stream and another to the message digest.  In binary mode both
get the body as it is.  In text mode (`t`, `u` or `m`) the digest gets the body as it is and the
output gets it with every CR dropped, the "native line ending" conversion of a non-DOS system,
except in mode `m`, whose bytes all go out.  A packet of known length is read for `pt->len`
bytes; a body that ends before that fails with the error of the failed read, after the bytes
that were there have been written and hashed.

`Copied` says what a run of a loop hands on: the bytes written, the bytes hashed, and the
charge to the static `--max-output` count.  Runs compose (`Copied.trans`), so each loop gets a
closed form by induction over its own recursion: `textCopyAll_copied`, `textCopyLen_copied`,
and `binaryCopyLen_copied`, which holds for every way `iobuf_read` may chunk the body.
`handlePlaintext_of_copy` puts a loop's run into the call.  The results are for an output
stream whose writes succeed and a static count that `--max-output` leaves room for; what
happens at the limit is `handlePlaintextRun_le_maxOutput`'s business.

* **`handlePlaintext_textLen`**: a text packet of known length writes its first `pt->len` bytes
  without CR (all of them in mode `m`), hashes them, and fails exactly when the body is shorter.
* **`handlePlaintext_binaryLen`**: a binary packet of known length writes and hashes its first
  `pt->len` bytes, however the input is chunked, and fails exactly when the body is shorter.
* **`handlePlaintext_textPartial`**: a partial-length text packet writes its whole body without
  CR, and hashes all of it.
* **`handlePlaintext_binaryPartial`**: the partial-length binary loop takes a read shorter than
  32768 bytes as the end ("always assume EOF if iobuf_read returns less bytes then requested").
  When every chunk `iobuf_read` delivers but the last is a whole number of such reads, it
  writes and hashes the whole body.
-/

namespace NeoPG

/-! ## What a loop's run hands on -/

/-- The bytes that reach a stream that may be absent: all of them when it is there. -/
def keepIf (present : Bool) (bytes : List UInt8) : List UInt8 := if present then bytes else []

@[simp] lemma keepIf_true (bytes : List UInt8) : keepIf true bytes = bytes := rfl

@[simp] lemma keepIf_false (bytes : List UInt8) : keepIf false bytes = [] := rfl

@[simp] lemma keepIf_nil (present : Bool) : keepIf present [] = [] := by
  cases present <;> rfl

lemma keepIf_append (present : Bool) (a b : List UInt8) :
    keepIf present (a ++ b) = keepIf present a ++ keepIf present b := by
  cases present <;> simp

/-- Writing `n` more bytes from a static count of `count` stays within `--max-output`. -/
def Fits (maxOutput count n : Nat) : Prop := maxOutput = 0 ∨ count + n ≤ maxOutput

/-- Room for `a + b` bytes is room for the first `a`. -/
lemma Fits.left {maxOutput count a b : Nat} (h : Fits maxOutput count (a + b)) :
    Fits maxOutput count a :=
  h.imp_right fun h => by omega

/-- Room for `a + b` bytes is room for the last `b` once the first `a` are charged. -/
lemma Fits.right {maxOutput count a b : Nat} (h : Fits maxOutput count (a + b)) :
    Fits maxOutput (count + if maxOutput ≠ 0 then a else 0) b := by
  rcases h with h | h
  · exact .inl h
  · exact .inr (by split_ifs <;> omega)

/-- The bytes a text-mode loop writes: every byte but CR, and every byte in mode `m`. -/
def textOut (convert : Char) (bytes : List UInt8) : List UInt8 :=
  bytes.filter fun c => !decide (c = 13 ∧ convert ≠ 'm')

@[simp] lemma textOut_nil (convert : Char) : textOut convert [] = [] := rfl

lemma textOut_cons_skip {convert : Char} {c : UInt8} (h : c = 13 ∧ convert ≠ 'm')
    (rest : List UInt8) : textOut convert (c :: rest) = textOut convert rest := by
  simp [textOut, List.filter_cons, h]

lemma textOut_cons_keep {convert : Char} {c : UInt8} (h : ¬(c = 13 ∧ convert ≠ 'm'))
    (rest : List UInt8) : textOut convert (c :: rest) = c :: textOut convert rest := by
  simp only [textOut, List.filter_cons, h, decide_False, Bool.not_false, if_true]

/-- A run of a copy loop from `st` to `st'` handed `out` to the output stream and `md` to the
digest, and charged `out` to the static count when `--max-output` is set. -/
structure Copied (maxOutput : Nat) (st st' : CopyState) (out md : List UInt8) : Prop where
  written : st'.written = st.written ++ out
  hashed : st'.hashed = st.hashed ++ md
  count : st'.count = st.count + if maxOutput ≠ 0 then out.length else 0

namespace Copied

variable {maxOutput : Nat}

lemma refl (st : CopyState) : Copied maxOutput st st [] [] :=
  ⟨(List.append_nil _).symm, (List.append_nil _).symm, by simp⟩

/-- Two runs one after the other hand on what each does, in order. -/
lemma trans {st₁ st₂ st₃ : CopyState} {o₁ o₂ m₁ m₂ : List UInt8}
    (h₁ : Copied maxOutput st₁ st₂ o₁ m₁) (h₂ : Copied maxOutput st₂ st₃ o₂ m₂) :
    Copied maxOutput st₁ st₃ (o₁ ++ o₂) (m₁ ++ m₂) where
  written := by rw [h₂.written, h₁.written, List.append_assoc]
  hashed := by rw [h₂.hashed, h₁.hashed, List.append_assoc]
  count := by
    rw [h₂.count, h₁.count, List.length_append]
    split_ifs <;> omega

end Copied

@[simp] lemma CopyState.hashIf_count (hasMd : Bool) (st : CopyState) (bytes : List UInt8) :
    (st.hashIf hasMd bytes).count = st.count := by
  cases hasMd <;> rfl

/-- Hashing when there is a digest writes nothing. -/
lemma copied_hashIf (maxOutput : Nat) (hasMd : Bool) (st : CopyState) (bytes : List UInt8) :
    Copied maxOutput st (st.hashIf hasMd bytes) [] (keepIf hasMd bytes) := by
  cases hasMd
  · exact Copied.refl st
  · exact ⟨(List.append_nil _).symm, rfl, by simp⟩

/-- **The guarded write, when the stream takes the bytes and the limit leaves room**, writes
them and charges them. -/
lemma guardedWrite_copied {maxOutput : Nat} {write : Nat → Option GpgErr}
    (hw : ∀ k, write k = none) (onFail : GpgErr → GpgErr) (st : CopyState) (bytes : List UInt8)
    (hfit : Fits maxOutput st.count bytes.length) :
    ∃ st', guardedWrite maxOutput write onFail st bytes = (st', none) ∧
      Copied maxOutput st st' bytes [] := by
  have hroom : ¬(maxOutput ≠ 0 ∧
      (if maxOutput ≠ 0 then st.count + bytes.length else st.count) > maxOutput) := by
    rcases hfit with h | h <;> simp only [ne_eq, gt_iff_lt] <;> split_ifs <;> omega
  simp only [guardedWrite, if_neg hroom, hw, Option.map_none']
  exact ⟨_, rfl, rfl, (List.append_nil _).symm, by split_ifs <;> rfl⟩

/-! ## The text loops -/

section Loops

variable {maxOutput : Nat} {env : PlaintextEnv} (hw : ∀ k, env.write k = none)
  (hasMd hasFp : Bool) (convert : Char)
include hw

/-- One byte of a text loop: hashed, then written unless it is a dropped CR; the rest of the
loop goes on from there. -/
lemma textByte_copied {c : UInt8} {st : CopyState} {rest : List UInt8}
    {k : CopyState → CopyState × Option GpgErr} {e : Option GpgErr}
    (hfit : Fits maxOutput st.count (keepIf hasFp (textOut convert (c :: rest))).length)
    (hk : ∀ st₁, Fits maxOutput st₁.count (keepIf hasFp (textOut convert rest)).length →
      ∃ st', k st₁ = (st', e) ∧
        Copied maxOutput st₁ st' (keepIf hasFp (textOut convert rest)) (keepIf hasMd rest)) :
    ∃ st', (if c = 13 ∧ convert ≠ 'm' then k (st.hashIf hasMd [c])
        else if hasFp then thenWrite (guardedWrite maxOutput env.write id (st.hashIf hasMd [c]) [c]) k
        else k (st.hashIf hasMd [c])) = (st', e) ∧
      Copied maxOutput st st' (keepIf hasFp (textOut convert (c :: rest)))
        (keepIf hasMd (c :: rest)) := by
  have hh := copied_hashIf maxOutput hasMd st [c]
  have hmd : keepIf hasMd (c :: rest) = keepIf hasMd [c] ++ keepIf hasMd rest := by
    rw [← keepIf_append]; rfl
  by_cases hskip : c = 13 ∧ convert ≠ 'm'
  · -- a CR outside mode `m`: hashed, not written
    rw [if_pos hskip, textOut_cons_skip hskip] at *
    obtain ⟨st', hrun, hc⟩ := hk (st.hashIf hasMd [c]) (by rwa [CopyState.hashIf_count])
    exact ⟨st', hrun, hmd ▸ hh.trans hc⟩
  rw [if_neg hskip, textOut_cons_keep hskip] at *
  cases hasFp with
  | false =>
    obtain ⟨st', hrun, hc⟩ := hk (st.hashIf hasMd [c]) (by simpa using hfit)
    exact ⟨st', hrun, hmd ▸ hh.trans hc⟩
  | true =>
    rw [keepIf_true, List.length_cons] at hfit
    obtain ⟨st₂, hg, hwc⟩ := guardedWrite_copied hw id (st.hashIf hasMd [c]) [c]
      (by rw [CopyState.hashIf_count]; exact (Nat.add_comm _ _ ▸ hfit).left)
    obtain ⟨st', hrun, hc⟩ := hk st₂
      (by rw [hwc.count, CopyState.hashIf_count]; exact (Nat.add_comm _ _ ▸ hfit).right)
    refine ⟨st', by rw [if_pos rfl, hg]; exact hrun, ?_⟩
    simpa [hmd] using hh.trans (hwc.trans hc)

/-- **The partial-length text loop** writes the bytes without dropped CRs and hashes them all. -/
lemma textCopyAll_copied : ∀ (bytes : List UInt8) (st : CopyState),
    Fits maxOutput st.count (keepIf hasFp (textOut convert bytes)).length →
    ∃ st', textCopyAll maxOutput env hasMd hasFp convert bytes st = (st', none) ∧
      Copied maxOutput st st' (keepIf hasFp (textOut convert bytes)) (keepIf hasMd bytes)
  | [], st, _ => ⟨st, rfl, by simpa using Copied.refl st⟩
  | c :: rest, st, hfit => by
    rw [textCopyAll]
    exact textByte_copied hw hasMd hasFp convert hfit
      (textCopyAll_copied rest)

/-- **The known-length text loop** does the same for the first `n` bytes, and fails with the
failed read's error exactly when there are fewer. -/
lemma textCopyLen_copied : ∀ (n : Nat) (bytes : List UInt8) (st : CopyState),
    Fits maxOutput st.count (keepIf hasFp (textOut convert (bytes.take n))).length →
    ∃ st', textCopyLen maxOutput env hasMd hasFp convert n bytes st =
        (st', if n ≤ bytes.length then none else some .sys) ∧
      Copied maxOutput st st' (keepIf hasFp (textOut convert (bytes.take n)))
        (keepIf hasMd (bytes.take n))
  | 0, bytes, st, _ => ⟨st, by simp [textCopyLen], by simpa using Copied.refl st⟩
  | n + 1, [], st, _ => ⟨st, by simp [textCopyLen], by simpa using Copied.refl st⟩
  | n + 1, c :: rest, st, hfit => by
    rw [textCopyLen, List.take_succ_cons]
    rw [List.take_succ_cons] at hfit
    simp only [List.length_cons, Nat.add_le_add_iff_right]
    exact textByte_copied hw hasMd hasFp convert hfit
      (textCopyLen_copied n rest)

end Loops

/-! ## The binary loop of a packet of known length -/

/-- What a read takes off the buffer comes first in the buffer's bytes. -/
lemma iobufRead_flatten {n : Nat} : ∀ {buf : List (List UInt8)} {bytes : List UInt8}
    {rest : List (List UInt8)}, iobufRead n buf = some (bytes, rest) →
      bytes ++ rest.flatten = buf.flatten
  | [], _, _, h => by simp [iobufRead] at h
  | [] :: _, _, _, h => by
    rw [iobufRead] at h
    simpa using iobufRead_flatten h
  | (b :: c) :: _, _, _, h => by
    simp only [iobufRead, Option.some.injEq, Prod.mk.injEq] at h
    obtain ⟨rfl, rfl⟩ := h
    rw [List.flatten_cons, List.flatten_cons, ← List.append_assoc, List.take_append_drop]

/-- A read finds nothing only at the end of the buffer. -/
lemma iobufRead_eq_none {n : Nat} :
    ∀ {buf : List (List UInt8)}, iobufRead n buf = none → buf.flatten = []
  | [], _ => rfl
  | [] :: _, h => by
    rw [iobufRead] at h
    simpa using iobufRead_eq_none h
  | (_ :: _) :: _, h => by simp [iobufRead] at h

/-- A chunk before the last is read as a whole number of 32768-byte reads. -/
lemma mem_dropLast_cons {α : Type} {x c : α} {tail : List α} (h : c ∈ tail.dropLast) :
    c ∈ (x :: tail).dropLast := by
  cases tail with
  | nil => cases h
  | cons t ts => exact List.mem_cons_of_mem _ h

/-- **Reads of 32768 bytes over whole chunks.**  When every chunk but the last is a whole
number of 32768-byte reads, a read is full and leaves chunks of the same kind, or it is short
and leaves nothing. -/
lemma iobufRead_full : ∀ {buf : List (List UInt8)} {bytes : List UInt8}
    {rest : List (List UInt8)}, (∀ c ∈ buf.dropLast, 32768 ∣ c.length) →
    iobufRead 32768 buf = some (bytes, rest) →
    (bytes.length = 32768 ∧ ∀ c ∈ rest.dropLast, 32768 ∣ c.length) ∨
      (bytes.length < 32768 ∧ rest.flatten = [])
  | [], _, _, _, h => by simp [iobufRead] at h
  | [] :: _, _, _, hfull, h => by
    rw [iobufRead] at h
    exact iobufRead_full (fun c hc => hfull c (mem_dropLast_cons hc)) h
  | (b :: c) :: tail, bytes, rest, hfull, h => by
    simp only [iobufRead, Option.some.injEq, Prod.mk.injEq] at h
    obtain ⟨rfl, rfl⟩ := h
    cases tail with
    | nil =>
      by_cases hlen : 32768 ≤ (b :: c).length
      · exact .inl ⟨by simp only [List.length_take]; omega, fun _ h => by cases h⟩
      · exact .inr ⟨by simp only [List.length_take]; omega,
          by simp [List.drop_eq_nil_of_le (Nat.le_of_not_le hlen)]⟩
    | cons t ts =>
      have hd : 32768 ∣ (b :: c).length := hfull _ (List.mem_cons_self _ _)
      have hlen : 32768 ≤ (b :: c).length := Nat.le_of_dvd (by simp) hd
      refine .inl ⟨by simp only [List.length_take]; omega, fun d hd' => ?_⟩
      rw [List.dropLast_cons₂] at hd'
      rcases List.mem_cons.mp hd' with rfl | hd'
      · rw [List.length_drop]
        exact Nat.dvd_sub' hd (dvd_refl _)
      · exact hfull d (List.mem_cons_of_mem _ hd')

section Binary

variable {maxOutput : Nat} {env : PlaintextEnv} (hw : ∀ k, env.write k = none)
  (hasMd hasFp : Bool)
include hw

/-- **The known-length binary loop** writes and hashes the first `len` bytes of the buffer,
however `iobuf_read` chunks it, and fails with the failed read's error exactly when there are
fewer. -/
lemma binaryCopyLen_copied (len : Nat) : ∀ (buf : List (List UInt8)) (st : CopyState),
    Fits maxOutput st.count (keepIf hasFp (buf.flatten.take len)).length →
    ∃ st', binaryCopyLen maxOutput env hasMd hasFp len buf st =
        (st', if len ≤ buf.flatten.length then none else some .sys) ∧
      Copied maxOutput st st' (keepIf hasFp (buf.flatten.take len))
        (keepIf hasMd (buf.flatten.take len)) := by
  induction len using Nat.strong_induction_on with
  | _ len ih =>
  intro buf st hfit
  rw [binaryCopyLen]
  split
  · next hlen =>
    subst hlen
    exact ⟨st, by simp, by simpa using Copied.refl st⟩
  split
  · next hr =>
    -- the buffer is empty: the read fails
    have hnil := iobufRead_eq_none hr
    exact ⟨st, by simp [hnil]; omega, by simpa [hnil] using Copied.refl st⟩
  next bytes rest hr =>
  obtain ⟨hpos, hle, -⟩ := iobufRead_spec (by omega) _ hr
  have hflat := iobufRead_flatten hr
  have htake : buf.flatten.take len = bytes ++ rest.flatten.take (len - bytes.length) := by
    rw [← hflat, List.take_append_eq_append_take, List.take_of_length_le (by omega)]
  have hcond : (len ≤ buf.flatten.length ↔ len - bytes.length ≤ rest.flatten.length) := by
    rw [← hflat, List.length_append]
    omega
  simp only [htake, hcond, keepIf_append] at hfit ⊢
  have hh := copied_hashIf maxOutput hasMd st bytes
  cases hasFp with
  | false =>
    obtain ⟨st', hrun, hc⟩ := ih (len - bytes.length) (by omega) rest (st.hashIf hasMd bytes)
      (by simpa using hfit)
    exact ⟨st', hrun, by simpa using hh.trans hc⟩
  | true =>
    rw [keepIf_true, keepIf_true, List.length_append] at hfit
    obtain ⟨st₂, hg, hwc⟩ := guardedWrite_copied hw (fun _ => .sys) (st.hashIf hasMd bytes) bytes
      (by rw [CopyState.hashIf_count]; exact hfit.left)
    obtain ⟨st', hrun, hc⟩ := ih (len - bytes.length) (by omega) rest st₂
      (by rw [hwc.count, CopyState.hashIf_count, keepIf_true]; exact hfit.right)
    refine ⟨st', by rw [if_pos rfl, hg]; exact hrun, ?_⟩
    simpa using hh.trans (hwc.trans hc)

/-- **The partial-length binary loop** writes and hashes the whole buffer when every chunk but
the last is a whole number of 32768-byte reads: a full read goes on, and the first short read,
which ends the loop, takes the last bytes. -/
lemma binaryCopyAll_copied (n : Nat) : ∀ (buf : List (List UInt8)), bufSize buf = n →
    ∀ st : CopyState, (∀ c ∈ buf.dropLast, 32768 ∣ c.length) →
    Fits maxOutput st.count (keepIf hasFp buf.flatten).length →
    ∃ st', binaryCopyAll maxOutput env hasMd hasFp buf st = (st', none) ∧
      Copied maxOutput st st' (keepIf hasFp buf.flatten) (keepIf hasMd buf.flatten) := by
  induction n using Nat.strong_induction_on with
  | _ n ih =>
  intro buf hn st hfull hfit
  rw [binaryCopyAll]
  split
  · next hr =>
    -- the buffer is empty: the read returns `-1`
    have hnil := iobufRead_eq_none hr
    exact ⟨st, rfl, by simpa [hnil] using Copied.refl st⟩
  next bytes rest hr =>
  obtain ⟨hpos, -, hsize⟩ := iobufRead_spec (by decide) _ hr
  have hflat := iobufRead_flatten hr
  -- what the rest of the loop does after the write of `bytes`, from any state with room
  have hnext : ∀ st₁ : CopyState, Fits maxOutput st₁.count (keepIf hasFp rest.flatten).length →
      ∃ st', (if bytes.length < 32768 then (st₁, none)
          else binaryCopyAll maxOutput env hasMd hasFp rest st₁) = (st', none) ∧
        Copied maxOutput st₁ st' (keepIf hasFp rest.flatten) (keepIf hasMd rest.flatten) := by
    intro st₁ hfit₁
    rcases iobufRead_full hfull hr with ⟨hlen, hfull'⟩ | ⟨hlen, hnil⟩
    · rw [if_neg (by omega)]
      exact ih (bufSize rest) (by omega) rest rfl st₁ hfull' hfit₁
    · exact ⟨st₁, if_pos hlen, by simpa [hnil] using Copied.refl st₁⟩
  simp only [← hflat, keepIf_append] at hfit ⊢
  have hh := copied_hashIf maxOutput hasMd st bytes
  cases hasFp with
  | false =>
    obtain ⟨st', hrun, hc⟩ := hnext (st.hashIf hasMd bytes) (by simpa using hfit)
    exact ⟨st', hrun, by simpa using hh.trans hc⟩
  | true =>
    rw [keepIf_true, keepIf_true, List.length_append] at hfit
    obtain ⟨st₂, hg, hwc⟩ := guardedWrite_copied hw (fun _ => .sys) (st.hashIf hasMd bytes) bytes
      (by rw [CopyState.hashIf_count]; exact hfit.left)
    obtain ⟨st', hrun, hc⟩ := hnext st₂
      (by rw [hwc.count, CopyState.hashIf_count, keepIf_true]; exact hfit.right)
    refine ⟨st', by rw [if_pos rfl, hg]; exact hrun, ?_⟩
    simpa using hh.trans (hwc.trans hc)

end Binary

/-! ## The call -/

/-- A call whose output opens and closes and whose stdout flushes reports its copy loop's run. -/
lemma handlePlaintext_of_copy {maxOutput : Nat} {env : PlaintextEnv} {count : Nat}
    {pt : Plaintext} {hasMd nooutput clearsig : Bool} (hout : nooutput ∨ env.outputFile = none)
    (hclose : nooutput ∨ env.closeOk) (hflush : env.flushOk) {st : CopyState}
    {e : Option GpgErr}
    (hc : plaintextCopy maxOutput env pt hasMd (!nooutput) clearsig ⟨count, [], [], 0⟩ = (st, e)) :
    handlePlaintext maxOutput env count pt hasMd nooutput clearsig =
      ⟨e, st.count, st.written, st.hashed⟩ := by
  unfold handlePlaintext
  cases nooutput with
  | true =>
    simp only [Bool.not_true] at hc
    simp only [if_true, Bool.not_true, hc]
    cases e <;> simp [hflush]
  | false =>
    simp only [Bool.false_eq_true, false_or] at hout hclose
    simp only [Bool.not_false] at hc
    simp only [Bool.false_eq_true, if_false, hout, Bool.not_false, hc]
    cases e <;> simp [hflush, hclose]

/-- An output that opens, takes every write and closes, and a stdout that flushes. -/
def steadyOutput : PlaintextEnv := ⟨none, fun _ => none, true, true, true⟩

section Call

variable (maxOutput : Nat) (env : PlaintextEnv) (count : Nat) (pt : Plaintext)
  (hasMd nooutput : Bool)

/-- **A text packet of known length.**  With an output that opens, takes every write and
closes, a stdout that flushes, and `--max-output` room for what is written: `handle_plaintext`
writes the first `pt->len` bytes of the body with every CR dropped (every byte in mode `m`),
hashes those bytes as they are, charges what it wrote, and fails with the failed read's error
exactly when the body holds fewer than `pt->len` bytes.  With `nooutput` it writes nothing. -/
theorem handlePlaintext_textLen (htext : pt.mode = 't' ∨ pt.mode = 'u' ∨ pt.mode = 'm')
    (hlen : pt.isPartial = false) (hout : nooutput ∨ env.outputFile = none)
    (hw : ∀ k, env.write k = none) (hclose : nooutput ∨ env.closeOk) (hflush : env.flushOk)
    (hfit : Fits maxOutput count
      (keepIf (!nooutput) (textOut pt.mode (pt.buf.flatten.take pt.len))).length) :
    handlePlaintext maxOutput env count pt hasMd nooutput false =
      ⟨if pt.len ≤ pt.buf.flatten.length then none else some .sys,
        count + if maxOutput ≠ 0 then
          (keepIf (!nooutput) (textOut pt.mode (pt.buf.flatten.take pt.len))).length else 0,
        keepIf (!nooutput) (textOut pt.mode (pt.buf.flatten.take pt.len)),
        keepIf hasMd (pt.buf.flatten.take pt.len)⟩ := by
  obtain ⟨st, hrun, hc⟩ :=
    textCopyLen_copied hw hasMd (!nooutput) pt.mode pt.len pt.buf.flatten ⟨count, [], [], 0⟩ hfit
  have hcopy : plaintextCopy maxOutput env pt hasMd (!nooutput) false ⟨count, [], [], 0⟩ =
      textCopyLen maxOutput env hasMd (!nooutput) pt.mode pt.len pt.buf.flatten
        ⟨count, [], [], 0⟩ := by
    simp [plaintextCopy, hlen, htext]
  rw [handlePlaintext_of_copy hout hclose hflush (hcopy.trans hrun), hc.written, hc.hashed,
    hc.count, List.nil_append, List.nil_append]

/-- The three bytes `a`, CR, LF of a `t` packet: the CR is hashed and not written. -/
theorem handlePlaintext_textLen_crlf :
    handlePlaintext 0 steadyOutput 0 ⟨'t', false, 3, [[97, 13, 10]]⟩ true false false =
      ⟨none, 0, [97, 10], [97, 13, 10]⟩ :=
  (handlePlaintext_textLen 0 steadyOutput 0 ⟨'t', false, 3, [[97, 13, 10]]⟩ true false
    (.inl rfl) rfl (.inr rfl) (fun _ => rfl) (.inr rfl) rfl (.inl rfl)).trans rfl

/-- **A binary packet of known length.**  With an output that opens, takes every write and
closes, a stdout that flushes, and `--max-output` room for the bytes: however `iobuf_read`
chunks the body, `handle_plaintext` writes and hashes exactly its first `pt->len` bytes, charges
them, and fails with the failed read's error exactly when the body holds fewer.  With `nooutput`
it writes nothing. -/
theorem handlePlaintext_binaryLen (hbin : ¬(pt.mode = 't' ∨ pt.mode = 'u' ∨ pt.mode = 'm'))
    (hlen : pt.isPartial = false) (hout : nooutput ∨ env.outputFile = none)
    (hw : ∀ k, env.write k = none) (hclose : nooutput ∨ env.closeOk) (hflush : env.flushOk)
    (hfit : Fits maxOutput count (keepIf (!nooutput) (pt.buf.flatten.take pt.len)).length) :
    handlePlaintext maxOutput env count pt hasMd nooutput false =
      ⟨if pt.len ≤ pt.buf.flatten.length then none else some .sys,
        count + if maxOutput ≠ 0 then (keepIf (!nooutput) (pt.buf.flatten.take pt.len)).length
          else 0,
        keepIf (!nooutput) (pt.buf.flatten.take pt.len),
        keepIf hasMd (pt.buf.flatten.take pt.len)⟩ := by
  obtain ⟨st, hrun, hc⟩ :=
    binaryCopyLen_copied hw hasMd (!nooutput) pt.len pt.buf ⟨count, [], [], 0⟩ hfit
  have hcopy : plaintextCopy maxOutput env pt hasMd (!nooutput) false ⟨count, [], [], 0⟩ =
      binaryCopyLen maxOutput env hasMd (!nooutput) pt.len pt.buf ⟨count, [], [], 0⟩ := by
    simp only [plaintextCopy, hlen, hbin]
    simp
  rw [handlePlaintext_of_copy hout hclose hflush (hcopy.trans hrun), hc.written, hc.hashed,
    hc.count, List.nil_append, List.nil_append]

/-- Three bytes of a `b` packet read in two chunks, the second longer than what is left. -/
theorem handlePlaintext_binaryLen_twoChunks :
    handlePlaintext 0 steadyOutput 0 ⟨'b', false, 3, [[1, 2], [3, 4]]⟩ true false false =
      ⟨none, 0, [1, 2, 3], [1, 2, 3]⟩ :=
  (handlePlaintext_binaryLen 0 steadyOutput 0 ⟨'b', false, 3, [[1, 2], [3, 4]]⟩ true false
    (by decide) rfl (.inr rfl) (fun _ => rfl) (.inr rfl) rfl (.inl rfl)).trans rfl

/-- **A partial-length text packet.**  With an output that opens, takes every write and
closes, a stdout that flushes, and `--max-output` room for what is written: `handle_plaintext`
writes the whole body with every CR dropped (every byte in mode `m`), hashes the whole body as
it is, charges what it wrote, and returns no error.  With `nooutput` it writes nothing. -/
theorem handlePlaintext_textPartial (htext : pt.mode = 't' ∨ pt.mode = 'u' ∨ pt.mode = 'm')
    (hpart : pt.isPartial = true) (hout : nooutput ∨ env.outputFile = none)
    (hw : ∀ k, env.write k = none) (hclose : nooutput ∨ env.closeOk) (hflush : env.flushOk)
    (hfit : Fits maxOutput count (keepIf (!nooutput) (textOut pt.mode pt.buf.flatten)).length) :
    handlePlaintext maxOutput env count pt hasMd nooutput false =
      ⟨none,
        count + if maxOutput ≠ 0 then (keepIf (!nooutput) (textOut pt.mode pt.buf.flatten)).length
          else 0,
        keepIf (!nooutput) (textOut pt.mode pt.buf.flatten), keepIf hasMd pt.buf.flatten⟩ := by
  obtain ⟨st, hrun, hc⟩ :=
    textCopyAll_copied hw hasMd (!nooutput) pt.mode pt.buf.flatten ⟨count, [], [], 0⟩ hfit
  have hcopy : plaintextCopy maxOutput env pt hasMd (!nooutput) false ⟨count, [], [], 0⟩ =
      textCopyAll maxOutput env hasMd (!nooutput) pt.mode pt.buf.flatten ⟨count, [], [], 0⟩ := by
    simp [plaintextCopy, hpart, htext]
  rw [handlePlaintext_of_copy hout hclose hflush (hcopy.trans hrun), hc.written, hc.hashed,
    hc.count, List.nil_append, List.nil_append]

/-- A `u` packet in two chunks, CR LF then `a`, under `--max-output 2`. -/
theorem handlePlaintext_textPartial_crlf :
    handlePlaintext 2 steadyOutput 0 ⟨'u', true, 0, [[13, 10], [97]]⟩ true false false =
      ⟨none, 2, [10, 97], [13, 10, 97]⟩ :=
  (handlePlaintext_textPartial 2 steadyOutput 0 ⟨'u', true, 0, [[13, 10], [97]]⟩ true false
    (.inr (.inl rfl)) rfl (.inr rfl) (fun _ => rfl) (.inr rfl) rfl (.inr (by decide))).trans rfl

/-- **A partial-length binary packet.**  With a buffer from `xtrymalloc`, an output that opens,
takes every write and closes, a stdout that flushes, and `--max-output` room for the body:
when every chunk `iobuf_read` delivers but the last is a whole number of 32768-byte reads,
`handle_plaintext` writes and hashes the whole body, charges it, and returns no error.  With
`nooutput` it writes nothing. -/
theorem handlePlaintext_binaryPartial
    (hbin : ¬(pt.mode = 't' ∨ pt.mode = 'u' ∨ pt.mode = 'm')) (hpart : pt.isPartial = true)
    (halloc : env.allocOk = true) (hfull : ∀ c ∈ pt.buf.dropLast, 32768 ∣ c.length)
    (hout : nooutput ∨ env.outputFile = none) (hw : ∀ k, env.write k = none)
    (hclose : nooutput ∨ env.closeOk) (hflush : env.flushOk)
    (hfit : Fits maxOutput count (keepIf (!nooutput) pt.buf.flatten).length) :
    handlePlaintext maxOutput env count pt hasMd nooutput false =
      ⟨none, count + if maxOutput ≠ 0 then (keepIf (!nooutput) pt.buf.flatten).length else 0,
        keepIf (!nooutput) pt.buf.flatten, keepIf hasMd pt.buf.flatten⟩ := by
  obtain ⟨st, hrun, hc⟩ := binaryCopyAll_copied hw hasMd (!nooutput) (bufSize pt.buf) pt.buf
    rfl ⟨count, [], [], 0⟩ hfull hfit
  have hcopy : plaintextCopy maxOutput env pt hasMd (!nooutput) false ⟨count, [], [], 0⟩ =
      binaryCopyAll maxOutput env hasMd (!nooutput) pt.buf ⟨count, [], [], 0⟩ := by
    simp only [plaintextCopy, hpart, hbin, halloc]
    simp
  rw [handlePlaintext_of_copy hout hclose hflush (hcopy.trans hrun), hc.written, hc.hashed,
    hc.count, List.nil_append, List.nil_append]

/-- A `b` packet whose first chunk is empty and whose second is short. -/
theorem handlePlaintext_binaryPartial_emptyChunk :
    handlePlaintext 0 steadyOutput 0 ⟨'b', true, 0, [[], [1, 2]]⟩ true false false =
      ⟨none, 0, [1, 2], [1, 2]⟩ :=
  (handlePlaintext_binaryPartial 0 steadyOutput 0 ⟨'b', true, 0, [[], [1, 2]]⟩ true false
    (by decide) rfl rfl (by decide) (.inr rfl) (fun _ => rfl) (.inr rfl) rfl (.inl rfl)).trans rfl

end Call

end NeoPG
