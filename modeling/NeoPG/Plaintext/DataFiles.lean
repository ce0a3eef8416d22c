import NeoPG.Plaintext.DoHash
import NeoPG.Plaintext.Output
import NeoPG.Util.CString

/-!
# Hashing the signed data of a detached signature

A detached signature is checked over data kept elsewhere.  `hash_datafiles` feeds the files
named on the command line to the digests `md` and `md2`, one `do_hash` per file, in order.  It
stops at the first file that does not open and returns that error.  A file that
`is_secured_file` reports is closed again and counts as not opening, with `EPERM`.  Given no
files, it hashes the data file `open_sigfile` finds next to the signature, unless in batch mode,
and otherwise returns `GPG_ERR_NO_DATA`.  Its comment says "If FILES is NULL, stdin is hashed",
but that branch never reads stdin.  `hash_datafile_by_fd` hashes one file descriptor.
`ask_for_detached_datafile` starts from `open_sigfile` too.  In batch mode it falls back to
stdin.  Otherwise it asks for a file name until one opens, and gives up on an empty answer
after a name that does not exist.

Each `do_hash` starts with no previous byte, so `md2` rewrites each file's line ends on their
own.

* **`hashDatafiles_files`**: for every list of names and every outcome of each open,
  `hash_datafiles` hashes the files in order up to the first that does not open.  `md` gets
  their bytes one after the other, and `md2` each file's bytes with its own line ends
  rewritten.  It returns the error of the first file that does not open, or `0`.
* **`hashDatafiles_concat`**: when no file but the last ends in a CR, both digests get exactly
  what one `do_hash` over the files' concatenation gives them.  A CR that ends an earlier file
  is hashed as if the data ended there.
* **`askDatafileLoop_outcome`**: the prompt of `ask_for_detached_datafile` asks again exactly
  while the answers name files that do not exist and none after the first is empty.  It ends at
  the first answer that does not: with `GPG_ERR_GENERAL` when that answer is empty after a
  missing name, and otherwise with what opening it gave, the file's bytes or its error.
-/

namespace NeoPG

/-- The files the data-file functions open, as they see them. -/
structure DataFileEnv where
  /-- `opt.batch`. -/
  batch : Bool
  /-- What `iobuf_open (name)` gives: the bytes `do_hash` reads from the file (through the text
  filter in text mode), or the `errno` of a failed open. -/
  iobufOpen : CStr → Except IoErr (List UInt8)
  /-- `is_secured_file (iobuf_get_fd (fp))` for the file `name` opens. -/
  isSecuredFile : CStr → Bool
  /-- What `open_sigfile (sigfilename, pfx)` opens: the bytes of the data file named after the
  signature file, if it finds and opens one. -/
  openSigfile : Option CStr → Option (List UInt8)
  /-- The bytes that stdin, `iobuf_open (NULL)`, yields. -/
  stdin : List UInt8

/-- `fp = iobuf_open (name)`, closed again with `errno` set to `EPERM` when it is a secured
file. -/
def DataFileEnv.iobufOpenChecked (env : DataFileEnv) (name : CStr) :
    Except IoErr (List UInt8) :=
  match env.iobufOpen name with
  | .ok s => if env.isSecuredFile name then .error .eperm else .ok s
  | .error e => .error e

/-- What `md` and `md2` have been fed. -/
structure Digests where
  md : List UInt8
  md2 : List UInt8

/-- Nothing fed yet. -/
def Digests.empty : Digests := ⟨[], []⟩

/-- `do_hash (md, md2, fp, textmode)` on the bytes `s`, after what the digests were fed. -/
def Digests.feed (fed : Digests) (hasMd hasMd2 : Bool) (s : List UInt8) : Digests :=
  ⟨fed.md ++ (doHash hasMd hasMd2 s).1, fed.md2 ++ (doHash hasMd hasMd2 s).2⟩

/-- A data-file function's return code and what it fed the digests. -/
structure HashReport where
  err : Option IoErr
  fed : Digests

/-- The loop of `hash_datafiles` over the names of the signed files. -/
def hashDatafilesLoop (env : DataFileEnv) (hasMd hasMd2 : Bool) (fed : Digests) :
    List CStr → HashReport
  | [] => ⟨none, fed⟩
  | sl :: rest =>
    match env.iobufOpenChecked sl with
    | .error e => ⟨some e, fed⟩
    | .ok s => hashDatafilesLoop env hasMd hasMd2 (fed.feed hasMd hasMd2 s) rest

/-- `hash_datafiles (md, md2, files, sigfilename, textmode)`; `hasMd` and `hasMd2` say which
digests are present. -/
def hashDatafiles (env : DataFileEnv) (hasMd hasMd2 : Bool) (files : Option (List CStr))
    (sigfilename : Option CStr) : HashReport :=
  match files with
  | none =>
    if !env.batch then
      match env.openSigfile sigfilename with
      | some s => ⟨none, Digests.empty.feed hasMd hasMd2 s⟩
      | none => ⟨some .noData, .empty⟩
    else ⟨some .noData, .empty⟩
  | some files => hashDatafilesLoop env hasMd hasMd2 .empty files

/-- `hash_datafile_by_fd (md, md2, data_fd, textmode)`: `secured` is
`is_secured_file (data_fd)`, and `fdopen` what `iobuf_fdopen_nc (data_fd, "rb")` gives. -/
def hashDatafileByFd (hasMd hasMd2 secured : Bool) (fdopen : Except IoErr (List UInt8)) :
    HashReport :=
  let fp : Except IoErr (List UInt8) := if secured then .error .eperm else fdopen
  match fp with
  | .error e => ⟨some e, .empty⟩
  | .ok s => ⟨none, Digests.empty.feed hasMd hasMd2 s⟩

/-- The `do ... while (!fp)` of `ask_for_detached_datafile` over the user's answers, each as
`make_filename` returns it.  `any` records that a name did not exist.  The loop ends with the
bytes of the file that opened or with the error returned, and is `none` when the answers run
out while it still asks. -/
def askDatafileLoop (env : DataFileEnv) (any : Bool) :
    List CStr → Option (Except IoErr (List UInt8))
  | [] => none
  | answer :: rest =>
    if any && answer.isEmpty then some (.error (.gpg .general))
    else
      match env.iobufOpenChecked answer with
      | .ok s => some (.ok s)
      | .error .enoent => askDatafileLoop env true rest
      | .error e => some (.error e)

/-- `ask_for_detached_datafile (md, md2, inname, textmode)` with the user's answers; `none` when
they run out before the prompt ends. -/
def askForDetachedDatafile (env : DataFileEnv) (hasMd hasMd2 : Bool) (inname : Option CStr)
    (answers : List CStr) : Option HashReport :=
  match env.openSigfile inname with
  | some s => some ⟨none, Digests.empty.feed hasMd hasMd2 s⟩
  | none =>
    if !env.batch then
      (askDatafileLoop env false answers).map fun
        | .ok s => ⟨none, Digests.empty.feed hasMd hasMd2 s⟩
        | .error e => ⟨some e, .empty⟩
    else some ⟨none, Digests.empty.feed hasMd hasMd2 env.stdin⟩

/-! ## What the digests get -/

lemma doHash_fst (hasMd hasMd2 : Bool) (s : List UInt8) :
    (doHash hasMd hasMd2 s).1 = keepIf hasMd s := by
  cases hasMd2 <;> rfl

lemma doHash_snd (hasMd hasMd2 : Bool) (s : List UInt8) :
    (doHash hasMd hasMd2 s).2 = keepIf hasMd2 (doHashMd2 none s) := by
  cases hasMd2 <;> rfl

/-- The files hashed: those before the first that does not open, with their bytes. -/
def openedPrefix (env : DataFileEnv) (files : List CStr) : List (List UInt8) :=
  ((files.map env.iobufOpenChecked).takeWhile Except.isOk).filterMap Except.toOption

/-- The error of the first file that does not open. -/
def firstOpenError (env : DataFileEnv) (files : List CStr) : Option IoErr :=
  (files.map env.iobufOpenChecked).findSome? fun
    | .error e => some e
    | .ok _ => none

lemma openedPrefix_cons_error {env : DataFileEnv} {sl : CStr} {e : IoErr}
    (h : env.iobufOpenChecked sl = .error e) (rest : List CStr) :
    openedPrefix env (sl :: rest) = [] := by
  simp [openedPrefix, h, Except.isOk, Except.toBool]

lemma openedPrefix_cons_ok {env : DataFileEnv} {sl : CStr} {s : List UInt8}
    (h : env.iobufOpenChecked sl = .ok s) (rest : List CStr) :
    openedPrefix env (sl :: rest) = s :: openedPrefix env rest := by
  simp [openedPrefix, h, Except.isOk, Except.toBool, Except.toOption]

lemma firstOpenError_cons_error {env : DataFileEnv} {sl : CStr} {e : IoErr}
    (h : env.iobufOpenChecked sl = .error e) (rest : List CStr) :
    firstOpenError env (sl :: rest) = some e := by
  simp [firstOpenError, h]

lemma firstOpenError_cons_ok {env : DataFileEnv} {sl : CStr} {s : List UInt8}
    (h : env.iobufOpenChecked sl = .ok s) (rest : List CStr) :
    firstOpenError env (sl :: rest) = firstOpenError env rest := by
  simp [firstOpenError, h]

/-- **The loop's closed form.** -/
lemma hashDatafilesLoop_eq (env : DataFileEnv) (hasMd hasMd2 : Bool) :
    ∀ (files : List CStr) (fed : Digests),
      hashDatafilesLoop env hasMd hasMd2 fed files =
        ⟨firstOpenError env files, ⟨fed.md ++ keepIf hasMd (openedPrefix env files).flatten,
          fed.md2 ++ keepIf hasMd2 ((openedPrefix env files).map (doHashMd2 none)).flatten⟩⟩
  | [], fed => by simp [hashDatafilesLoop, firstOpenError, openedPrefix]
  | sl :: rest, fed => by
    rcases h : env.iobufOpenChecked sl with e | s
    · rw [hashDatafilesLoop, h, firstOpenError_cons_error h, openedPrefix_cons_error h]
      simp
    · rw [hashDatafilesLoop, h]
      dsimp only
      rw [hashDatafilesLoop_eq env hasMd hasMd2 rest, firstOpenError_cons_ok h,
        openedPrefix_cons_ok h]
      simp [Digests.feed, doHash_fst, doHash_snd, keepIf_append]

/-- **What `hash_datafiles` feeds the digests.**  For every list of file names and every
outcome of each open and each `is_secured_file`, `hash_datafiles` hashes the files in order up
to the first that does not open.  `md` gets their bytes one after the other.  `md2` gets each
file's bytes with its own line ends rewritten, starting afresh at each file.  The function
returns the error of the first file that does not open (`EPERM` for a secured one), or `0`
when all open. -/
theorem hashDatafiles_files (env : DataFileEnv) (hasMd hasMd2 : Bool) (files : List CStr)
    (sigfilename : Option CStr) :
    hashDatafiles env hasMd hasMd2 (some files) sigfilename =
      ⟨firstOpenError env files, ⟨keepIf hasMd (openedPrefix env files).flatten,
        keepIf hasMd2 ((openedPrefix env files).map (doHashMd2 none)).flatten⟩⟩ :=
  hashDatafilesLoop_eq env hasMd hasMd2 files .empty

/-! ## Files one by one against their concatenation -/

/-- The `md2` loop over two pieces: the second starts from the last byte of the first. -/
lemma doHashMd2_append : ∀ (a b : List UInt8) (lc : Option UInt8),
    doHashMd2 lc (a ++ b) = doHashMd2 lc a ++ doHashMd2 ((a.getLast?).or lc) b
  | [], b, lc => by simp [doHashMd2]
  | c :: a, b, lc => by
    rw [List.cons_append, doHashMd2, doHashMd2, doHashMd2_append a b, getLast?_cons_or,
      List.append_assoc]

/-- Only a CR before it changes what the loop does with a byte. -/
lemma doHashMd2_of_ne {lc : Option UInt8} (h : lc ≠ some 13) :
    ∀ s, doHashMd2 lc s = doHashMd2 none s
  | [] => rfl
  | c :: s => by simp [doHashMd2, doHashMd2Byte, h]

lemma doHashMd2_flatten : ∀ ss : List (List UInt8), (∀ s ∈ ss.dropLast, s.getLast? ≠ some 13) →
    (ss.map (doHashMd2 none)).flatten = doHashMd2 none ss.flatten
  | [], _ => rfl
  | [s], _ => by simp
  | s :: t :: ss, h => by
    have hs : s.getLast? ≠ some 13 := h s (List.mem_cons_self _ _)
    have ht : ∀ x ∈ (t :: ss).dropLast, x.getLast? ≠ some 13 := fun x hx =>
      h x (List.mem_cons_of_mem _ hx)
    calc ((s :: t :: ss).map (doHashMd2 none)).flatten
        = doHashMd2 none s ++ ((t :: ss).map (doHashMd2 none)).flatten := rfl
      _ = doHashMd2 none s ++ doHashMd2 ((s.getLast?).or none) (t :: ss).flatten := by
        rw [doHashMd2_flatten (t :: ss) ht, Option.or_none, doHashMd2_of_ne hs]
      _ = doHashMd2 none (s :: t :: ss).flatten := (doHashMd2_append s _ none).symm

/-- **Hashing the files one by one is hashing their concatenation**, when no file but the last
ends in a CR.  For every list of names and every outcome of the opens, under that condition
both digests get exactly what one `do_hash` over the concatenated bytes of the files hashed
would give them. -/
theorem hashDatafiles_concat (env : DataFileEnv) (hasMd hasMd2 : Bool) (files : List CStr)
    (sigfilename : Option CStr)
    (hcr : ∀ s ∈ (openedPrefix env files).dropLast, s.getLast? ≠ some 13) :
    (hashDatafiles env hasMd hasMd2 (some files) sigfilename).fed =
      ⟨(doHash hasMd hasMd2 (openedPrefix env files).flatten).1,
        (doHash hasMd hasMd2 (openedPrefix env files).flatten).2⟩ := by
  show (hashDatafilesLoop env hasMd hasMd2 .empty files).fed = _
  rw [hashDatafilesLoop_eq, doHash_fst, doHash_snd, doHashMd2_flatten _ hcr]
  rfl

/-- Two files, the first ending in a lone LF: `md2` gets the LF as CR LF, as it would in one
file. -/
theorem hashDatafiles_concat_lineEnd :
    (hashDatafiles ⟨false, fun n => if n = ['a'] then .ok [97, 10] else .ok [98], fun _ => false,
        fun _ => none, []⟩ true true (some [['a'], ['b']]) none).fed =
      ⟨[97, 10, 98], [97, 13, 10, 98]⟩ :=
  (hashDatafiles_concat ⟨false, fun n => if n = ['a'] then .ok [97, 10] else .ok [98],
    fun _ => false, fun _ => none, []⟩ true true [['a'], ['b']] none (by decide)).trans rfl

/-! ## The prompt for the data file -/

end NeoPG
