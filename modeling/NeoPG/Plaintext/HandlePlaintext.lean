import Mathlib.Algebra.Order.Ring.Nat
import Mathlib.Data.List.Basic
import NeoPG.Util.Errors

/-!
# Writing out a literal data packet: `handle_plaintext`

`handle_plaintext` copies the body of a literal data packet to the output stream and feeds it
to the message digest.  It has five copy loops: text and binary mode for a packet of known
length, the same two for a partial-length packet, and the clear-signature loop, which hashes
line ends as CR LF and holds back the last one.  `--max-output` is enforced through a `static`
byte count that all calls of the process share: before each write the loop adds the bytes it is
about to write and fails with `GPG_ERR_TOO_LARGE` if the count passes the limit.

The packet's body is the input buffer as `iobuf_read` delivers it, a list of chunks: a read
returns at most what was asked for out of the next non-empty chunk.  `iobuf_get` returns the
bytes in order, so the loops that call it read the flattened buffer.  Any chunking is allowed,
so the model covers every sequence of lengths `iobuf_read` can return.  The collaborators of a
call are a `PlaintextEnv`: whether opening the output succeeds, what each write returns, and
how closing and flushing end.

The five loops share one step, `guardedWrite`: charge the bytes, refuse past the limit, write.
Each loop is its own definition, after the C, with the same order of hashing, skipping and
writing; `CopyState` carries the static count, the bytes handed to the output stream and the
bytes fed to the digest.
-/

namespace NeoPG

/-! ## The input buffer -/

/-- `iobuf_read (buf, buffer, n)`: at most `n` bytes out of the next non-empty chunk, or `none`
(`-1`) at the end. -/
def iobufRead (n : Nat) : List (List UInt8) → Option (List UInt8 × List (List UInt8))
  | [] => none
  | [] :: rest => iobufRead n rest
  | (b :: c) :: rest => some (((b :: c).take n), (b :: c).drop n :: rest)

/-- The bytes left in a buffer. -/
def bufSize (buf : List (List UInt8)) : Nat := (buf.map List.length).sum

/-- A read of a positive length returns at least one byte, at most the length, and leaves the
rest. -/
lemma iobufRead_spec {n : Nat} (hn : 0 < n) :
    ∀ (buf : List (List UInt8)) {buf' : List (List UInt8)} {bytes : List UInt8},
      iobufRead n buf = some (bytes, buf') →
      0 < bytes.length ∧ bytes.length ≤ n ∧ bufSize buf' + bytes.length = bufSize buf
  | [], _, _, h => by simp [iobufRead] at h
  | [] :: rest, _, _, h => by simpa [iobufRead, bufSize] using iobufRead_spec hn rest h
  | (b :: c) :: rest, buf', bytes, h => by
    simp only [iobufRead, Option.some.injEq, Prod.mk.injEq] at h
    obtain ⟨rfl, rfl⟩ := h
    simp only [bufSize, List.map_cons, List.sum_cons, List.length_take, List.length_drop,
      List.length_cons]
    omega

/-- The last byte of `c :: s`, or `last` when there is none, is the last byte of `s`, or `c`. -/
lemma getLast?_cons_or {α : Type} (c : α) (s : List α) (last : Option α) :
    ((c :: s).getLast?).or last = (s.getLast?).or (some c) := by
  cases h : s.getLast? <;> simp [List.getLast?_cons, h]

/-! ## The copy loops -/

/-- What the collaborators of one `handle_plaintext` call do. -/
structure PlaintextEnv where
  /-- The error `get_output_file` returns, if any. -/
  outputFile : Option GpgErr
  /-- What the `k`-th `es_putc` or `es_fwrite` of the call reports: `none` when it wrote
  everything, else the error the putc branches derive from `es_ferror`. -/
  write : Nat → Option GpgErr
  /-- Whether the partial binary branch gets its buffer from `xtrymalloc`. -/
  allocOk : Bool
  /-- Whether `es_fclose` of an output file succeeds. -/
  closeOk : Bool
  /-- Whether `es_fflush (es_stdout)` succeeds. -/
  flushOk : Bool

/-- What the copy loops change: the static count, the bytes handed to the output stream, the
bytes fed to `mfx->md`, and the number of writes made. -/
structure CopyState where
  count : Nat
  written : List UInt8
  hashed : List UInt8
  writes : Nat

/-- `gcry_md_write (mfx->md, bytes)`. -/
def CopyState.hash (st : CopyState) (bytes : List UInt8) : CopyState :=
  { st with hashed := st.hashed ++ bytes }

@[simp] lemma CopyState.hash_count (st : CopyState) (bytes : List UInt8) :
    (st.hash bytes).count = st.count := rfl

@[simp] lemma CopyState.hash_written (st : CopyState) (bytes : List UInt8) :
    (st.hash bytes).written = st.written := rfl

@[simp] lemma CopyState.hash_writes (st : CopyState) (bytes : List UInt8) :
    (st.hash bytes).writes = st.writes := rfl

@[simp] lemma CopyState.hash_hashed (st : CopyState) (bytes : List UInt8) :
    (st.hash bytes).hashed = st.hashed ++ bytes := rfl

@[simp] lemma CopyState.hash_nil (st : CopyState) : st.hash [] = st := by
  simp [CopyState.hash]

@[simp] lemma CopyState.hash_hash (st : CopyState) (a b : List UInt8) :
    (st.hash a).hash b = st.hash (a ++ b) := by
  simp [CopyState.hash]

@[simp] lemma CopyState.hash_inj {st : CopyState} {a b : List UInt8} :
    st.hash a = st.hash b ↔ a = b := by
  simp [CopyState.hash, CopyState.mk.injEq]

/-- The write every loop guards: when `--max-output` is set, add the bytes to the static count and
refuse with `GPG_ERR_TOO_LARGE` once it passes the limit; otherwise hand them to the stream.
`onFail` is how the loop turns a failed write into its error. -/
def guardedWrite (maxOutput : Nat) (write : Nat → Option GpgErr) (onFail : GpgErr → GpgErr)
    (st : CopyState) (bytes : List UInt8) : CopyState × Option GpgErr :=
  let count := if maxOutput ≠ 0 then st.count + bytes.length else st.count
  if maxOutput ≠ 0 ∧ count > maxOutput then ({ st with count := count }, some .tooLarge)
  else
    ({ st with count := count, written := st.written ++ bytes, writes := st.writes + 1 },
      (write st.writes).map onFail)

/-- Go on with `k` after a write that succeeded; after a refused or failed one, stop with its
error (`goto leave`). -/
def thenWrite (r : CopyState × Option GpgErr) (k : CopyState → CopyState × Option GpgErr) :
    CopyState × Option GpgErr :=
  match r with
  | (st, none) => k st
  | (st, some e) => (st, some e)

section Loops

variable (maxOutput : Nat) (env : PlaintextEnv) (hasMd hasFp : Bool)

/-- Hash the bytes when there is a digest. -/
def CopyState.hashIf (st : CopyState) (bytes : List UInt8) : CopyState :=
  if hasMd then st.hash bytes else st

/-- The text-mode loop for a packet of known length: `for (; pt->len; pt->len--)`.  A CR is
hashed but not written unless the mode is `m`. -/
def textCopyLen (convert : Char) : Nat → List UInt8 → CopyState → CopyState × Option GpgErr
  | 0, _, st => (st, none)
  | n + 1, bytes, st =>
    match bytes with
    | [] => (st, some .sys)
    | c :: rest =>
      let st := st.hashIf hasMd [c]
      if c = 13 ∧ convert ≠ 'm' then textCopyLen convert n rest st
      else if hasFp then
        thenWrite (guardedWrite maxOutput env.write id st [c]) (textCopyLen convert n rest)
      else textCopyLen convert n rest st

/-- The binary-mode loop for a packet of known length: `while (pt->len)`, reading at most
32768 bytes at a time. -/
def binaryCopyLen (len : Nat) (buf : List (List UInt8)) (st : CopyState) :
    CopyState × Option GpgErr :=
  if _hlen : len = 0 then (st, none)
  else
    match _h : iobufRead (min len 32768) buf with
    | none => (st, some .sys)
    | some (bytes, rest) =>
      let st := st.hashIf hasMd bytes
      if hasFp then
        thenWrite (guardedWrite maxOutput env.write (fun _ => .sys) st bytes)
          (binaryCopyLen (len - bytes.length) rest)
      else binaryCopyLen (len - bytes.length) rest st
termination_by len
decreasing_by
  all_goals
    have := (iobufRead_spec (by omega) _ _h).1
    omega

/-- The text-mode loop for a partial-length packet: `while ((c = iobuf_get (pt->buf)) != -1)`. -/
def textCopyAll (convert : Char) : List UInt8 → CopyState → CopyState × Option GpgErr
  | [], st => (st, none)
  | c :: rest, st =>
    let st := st.hashIf hasMd [c]
    if c = 13 ∧ convert ≠ 'm' then textCopyAll convert rest st
    else if hasFp then thenWrite (guardedWrite maxOutput env.write id st [c]) (textCopyAll convert rest)
    else textCopyAll convert rest st

/-- The binary-mode loop for a partial-length packet: `while (!eof_seen)`, a short read being
taken as the end. -/
def binaryCopyAll (buf : List (List UInt8)) (st : CopyState) : CopyState × Option GpgErr :=
  match _h : iobufRead 32768 buf with
  | none => (st, none)
  | some (bytes, rest) =>
    let st := st.hashIf hasMd bytes
    let next (st : CopyState) : CopyState × Option GpgErr :=
      if bytes.length < 32768 then (st, none) else binaryCopyAll rest st
    if hasFp then thenWrite (guardedWrite maxOutput env.write (fun _ => .sys) st bytes) next
    else next st
termination_by bufSize buf
decreasing_by
  all_goals
    have := iobufRead_spec (by decide) _ _h
    omega

/-- The states of the clear-signature loop's line-end automaton: nothing pending, a CR pending,
a line end (LF or CR LF) pending. -/
inductive ClearsigState
  | idle
  | cr
  | eol

/-- A line end as the clear-signature loop's idle state sees it: a CR becomes pending, an LF
becomes a pending line end, any other byte is hashed. -/
def clearsigIdle (c : UInt8) (st : CopyState) : ClearsigState × CopyState :=
  if c = 13 then (.cr, st) else if c = 10 then (.eol, st) else (.idle, st.hash [c])

/-- One step of the clear-signature loop's digest automaton: a pending line end is hashed as
CR LF before the byte is looked at; after a pending CR, an LF makes a line end, another CR is
hashed and stays pending, and any other byte is hashed after the CR. -/
def clearsigDigest : ClearsigState → UInt8 → CopyState → ClearsigState × CopyState
  | .cr, c, st =>
    if c = 10 then (.eol, st) else if c = 13 then (.cr, st.hash [13]) else (.idle, st.hash [13, c])
  | .idle, c, st => clearsigIdle c st
  | .eol, c, st => clearsigIdle c (st.hash [13, 10])

/-- The clear-signature loop: every byte is written, and the digest sees line ends as CR LF,
except the one still pending when the input ends. -/
def clearsigCopy : List UInt8 → ClearsigState → CopyState → CopyState × Option GpgErr
  | [], _, st => (st, none)
  | c :: rest, state, st =>
    thenWrite (if hasFp then guardedWrite maxOutput env.write (fun _ => .sys) st [c] else (st, none))
      fun st =>
        if hasMd then
          match clearsigDigest state c st with
          | (state, st) => clearsigCopy rest state st
        else clearsigCopy rest state st

end Loops

/-! ## The call -/

/-- A literal data packet as `handle_plaintext` reads it. -/
structure Plaintext where
  /-- `pt->mode`. -/
  mode : Char
  /-- `pt->is_partial`. -/
  isPartial : Bool
  /-- `pt->len`, the body length of a packet that is not partial. -/
  len : Nat
  /-- `pt->buf`. -/
  buf : List (List UInt8)

/-- What one `handle_plaintext` call did. -/
structure PlaintextResult where
  err : Option GpgErr
  /-- The static count after the call. -/
  count : Nat
  /-- The bytes handed to the output stream. -/
  written : List UInt8
  /-- The bytes fed to `mfx->md`. -/
  hashed : List UInt8

/-- The copy loop `handle_plaintext` runs, by the packet's kind and mode. -/
def plaintextCopy (maxOutput : Nat) (env : PlaintextEnv) (pt : Plaintext)
    (hasMd hasFp clearsig : Bool) (st : CopyState) : CopyState × Option GpgErr :=
  let text := pt.mode = 't' ∨ pt.mode = 'u' ∨ pt.mode = 'm'
  if ¬pt.isPartial then
    if clearsig then (st, some .unexpected)
    else if text then textCopyLen maxOutput env hasMd hasFp pt.mode pt.len pt.buf.flatten st
    else binaryCopyLen maxOutput env hasMd hasFp pt.len pt.buf st
  else if ¬clearsig then
    if text then textCopyAll maxOutput env hasMd hasFp pt.mode pt.buf.flatten st
    else if env.allocOk then binaryCopyAll maxOutput env hasMd hasFp pt.buf st
    else (st, some .enomem)
  else clearsigCopy maxOutput env hasMd hasFp pt.buf.flatten .idle st

/-- `handle_plaintext (pt, mfx, nooutput, clearsig)` with the static count at `count`;
`hasMd` is whether `mfx->md` is set. -/
def handlePlaintext (maxOutput : Nat) (env : PlaintextEnv) (count : Nat) (pt : Plaintext)
    (hasMd nooutput clearsig : Bool) : PlaintextResult :=
  let st : CopyState := ⟨count, [], [], 0⟩
  let (st, err) :=
    match (if nooutput then none else env.outputFile) with
    | some e => (st, some e)
    | none =>
      match plaintextCopy maxOutput env pt hasMd (!nooutput) clearsig st with
      | (st, none) => (st, if !nooutput ∧ ¬env.closeOk then some .sys else none)
      | (st, some e) => (st, some e)
  let err := if ¬env.flushOk ∧ err = none then some .sys else err
  ⟨err, st.count, st.written, st.hashed⟩

/-- A call that returns no error opened its output, ran its copy loop to the end without error,
and reports what the loop wrote and hashed. -/
lemma handlePlaintext_of_err_none {maxOutput : Nat} {env : PlaintextEnv} {count : Nat}
    {pt : Plaintext} {hasMd nooutput clearsig : Bool}
    (h : (handlePlaintext maxOutput env count pt hasMd nooutput clearsig).err = none) :
    ∃ st, plaintextCopy maxOutput env pt hasMd (!nooutput) clearsig ⟨count, [], [], 0⟩ =
        (st, none) ∧
      (handlePlaintext maxOutput env count pt hasMd nooutput clearsig).hashed = st.hashed ∧
      (handlePlaintext maxOutput env count pt hasMd nooutput clearsig).written = st.written := by
  unfold handlePlaintext at h ⊢
  rcases hout : (if nooutput then none else env.outputFile) with _ | e
  · rcases hc : plaintextCopy maxOutput env pt hasMd (!nooutput) clearsig ⟨count, [], [], 0⟩ with
      ⟨st, _ | e⟩
    · simp only [hout, hc] at h ⊢
      exact ⟨st, rfl, rfl, rfl⟩
    · simp [hout, hc] at h
  · simp [hout] at h

/-- A call returns no error when the output opens and closes, the copy loop ends without error
and stdout flushes. -/
lemma handlePlaintext_err_none {maxOutput : Nat} {env : PlaintextEnv} {count : Nat}
    {pt : Plaintext} {hasMd nooutput clearsig : Bool} (hout : nooutput ∨ env.outputFile = none)
    (hclose : nooutput ∨ env.closeOk)
    (hc : (plaintextCopy maxOutput env pt hasMd (!nooutput) clearsig ⟨count, [], [], 0⟩).2 = none)
    (hflush : env.flushOk) :
    (handlePlaintext maxOutput env count pt hasMd nooutput clearsig).err = none := by
  unfold handlePlaintext
  have : (if nooutput then none else env.outputFile) = none := by
    cases nooutput <;> simp_all
  rcases hc' : plaintextCopy maxOutput env pt hasMd (!nooutput) clearsig ⟨count, [], [], 0⟩ with
    ⟨st, e⟩
  rw [hc'] at hc
  cases hc
  cases nooutput <;> simp_all

end NeoPG
