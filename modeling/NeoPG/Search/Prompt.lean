import NeoPG.Search.Keyrec
import NeoPG.Keyserver.Get

/-!
# The selection prompt: `show_prompt`

While the results of a search come in, and once more at the end, `search_line_handler` stops
and asks the user which keys to fetch.  `show_prompt` prints the `Keys X-Y of Z` range, reads
an answer, and either quits (`q`, `Q`, Ctrl-D), fetches the keys whose numbers the answer lists
with `keyserver_get`, or lets the search go on.  Its `static int from` remembers where the
previous range ended.

A session's observable behaviour is its `SearchEvent` log: what it prints, what it asks the
allocator for, what it stores into and reads from the descriptor array, and what it hands to
`keyserver_get`.  `Session` carries the log together with everything else a search threads
through its calls: the answers not yet read, `from`, and the numbering of allocations and of
`keyserver_get_chunk` calls, by which the collaborators' outcomes are looked up.

The user's answers are a list; once it runs out, the terminal returns Ctrl-D, which quits.  So
`show_prompt`'s `goto again` loop is structural in the answers.

**`showPrompt_spec`** says what a prompt over slots holding key-id descriptors does, whatever
the answers: it returns, it only appends prompt, selection and fetch events to the log (every
selection reads `desc[j]` with `j < numdesc` and lists at most 50 numbers, every fetch hands
key-id descriptors to `keyserver_get`), and it moves `from` to `numdesc + 1` exactly when it
prints the range.
-/

namespace NeoPG

/-! ## The session's output and its collaborators -/

/-- What a search session does that can be observed. -/
inductive SearchEvent
  /-- `es_printf ("%s\n", line)` under `--with-colons`. -/
  | colonLine (line : CStr)
  /-- `xtrymalloc (bytes)`, and whether it succeeded. -/
  | malloc (bytes : Nat) (ok : Bool)
  /-- `xtryrealloc (parm->desc, bytes)`, and whether it succeeded. -/
  | realloc (bytes : Nat) (ok : Bool)
  /-- `parm->desc[index] = keyrec->desc`, into a buffer (re)allocated for `elems` descriptors. -/
  | storeDesc (index : Nat) (elems : Int) (d : KeydbSearchDesc)
  /-- `print_keyrec (ctrl, number, keyrec)`, with the line it prints. -/
  | keyrec (number : Int) (k : Keyrec) (text : CStr)
  /-- `show_prompt` is called with `numdesc` records and the `count` it may show. -/
  | showPrompt (numdesc count : Int)
  /-- `tty_printf ("Keys %d-%d of %d for \"%s\".  ", from, numdesc, count, search)`. -/
  | keysRange (first last total : Int) (search : CStr)
  /-- `tty_printf ("Q\n")` after a Ctrl-D. -/
  | quitEcho
  /-- `tty_printf ("Too many keys selected\n")`. -/
  | tooMany
  /-- `selarray[idx] = desc[numarray[idx] - 1]`: the indices read and what they held. -/
  | select (numdesc : Int) (sel : List (Nat × KeydbSearchDesc))
  /-- `keyserver_get (ctrl, selarray, numidx, ...)` and the error it returned. -/
  | get (sel : List KeydbSearchDesc) (err : Option GpgErr)
  deriving DecidableEq

/-- The options the search code reads. -/
structure SearchOpts where
  /-- `opt.with_colons`. -/
  withColons : Bool
  /-- `opt.batch`. -/
  batch : Bool
  /-- `opt.command_fd`. -/
  commandFd : Int
  /-- `opt.screen_lines`. -/
  screenLines : UInt32
  /-- `sizeof (KEYDB_SEARCH_DESC)`. -/
  descSize : Nat
  descSize_pos : 0 < descSize
  /-- The width of `size_t` in bits. -/
  sizeBits : Nat

/-- The collaborators of a search session. -/
structure SearchEnv (S : Type) where
  parse : ParseEnv
  print : PrintEnv
  /-- Whether `xtrymalloc` / `xtryrealloc` succeeds, by the number of the allocation in the
  session. -/
  allocOk : Nat → Bool
  /-- The collaborators of the `keyserver_get_chunk` calls, by their number in the session. -/
  chunk : Nat → ChunkEnv S

/-- What a search session threads through its calls besides the handler's `parm`. -/
structure Session where
  /-- `show_prompt`'s `static int from`. -/
  promptFrom : Int
  /-- The answers the user has yet to give. -/
  answers : List CStr
  /-- Allocations made so far. -/
  allocs : Nat
  /-- `keyserver_get_chunk` calls made so far. -/
  chunkCalls : Nat
  log : List SearchEvent

namespace Session

def emit (s : Session) (e : SearchEvent) : Session := { s with log := s.log ++ [e] }

/-- One allocation of `bytes`: whether it succeeded, with the event logged. -/
def alloc {S : Type} (env : SearchEnv S) (s : Session) (bytes : Nat) (realloc : Bool) :
    Bool × Session :=
  let ok := env.allocOk s.allocs
  (ok, { s with
    allocs := s.allocs + 1
    log := s.log ++ [if realloc then .realloc bytes ok else .malloc bytes ok] })

@[simp] lemma emit_log (s : Session) (e : SearchEvent) : (s.emit e).log = s.log ++ [e] := rfl
@[simp] lemma emit_promptFrom (s : Session) (e : SearchEvent) :
    (s.emit e).promptFrom = s.promptFrom := rfl

end Session

/-! ## The descriptor array -/

/-- `parm->desc`: the element count and byte size it was (re)allocated with, and the slots
written so far. -/
structure DescArray where
  elems : Int
  bytes : Nat
  slots : Nat → Option KeydbSearchDesc

/-- `desc[j]` as `show_prompt` reads it: a slot never written, or no array at all, is a read of
indeterminate memory. -/
def DescArray.read (desc : Option DescArray) (j : Nat) : Except Fault KeydbSearchDesc :=
  match desc.bind (·.slots j) with
  | some d => .ok d
  | none => .error .readUnstored

/-! ## `show_prompt` -/

/-- `DIM (numarray)`. -/
def numarrayDim : Nat := 50

/-- The tokens successive `gpg_strsep (&split, delim)` calls take from `s` until it is NULL. -/
def strsepTokens (delim s : CStr) : List CStr := s.splitOnP fun c => decide (c ∈ delim)

/-- The loop filling `numarray`: the numbers in `1..numdesc`, in order, or `none` once one more
would not fit ("Too many keys selected"). -/
def collectNumbers (longBits : Nat) (numdesc : Int) : List CStr → List Int → Option (List Int)
  | [], acc => some acc
  | tok :: rest, acc =>
    if 1 ≤ atoi longBits tok ∧ atoi longBits tok ≤ numdesc then
      if numarrayDim ≤ acc.length then none
      else collectNumbers longBits numdesc rest (acc ++ [atoi longBits tok])
    else collectNumbers longBits numdesc rest acc

section Prompt

variable {S : Type} (opts : SearchOpts) (env : SearchEnv S) (desc : Option DescArray)
  (numdesc : Int)

/-- The loop `selarray[idx] = desc[numarray[idx] - 1]`: the indices read and what they held. -/
def readSelection : List Int → Except Fault (List (Nat × KeydbSearchDesc))
  | [] => .ok []
  | n :: ns => do
    let d ← DescArray.read desc (n - 1).toNat
    let rest ← readSelection ns
    .ok (((n - 1).toNat, d) :: rest)

/-- Fetching the selected keys: `selarray` is allocated, filled from `desc`, and handed to
`keyserver_get`. -/
def getSelection (nums : List Int) (s : Session) : Except Fault (Session × Option GpgErr) :=
  let (ok, s) := s.alloc env (nums.length * opts.descSize) false
  if ok then do
    let sel ← readSelection desc nums
    let s := s.emit (.select numdesc sel)
    let g ← keyserverGet env.chunk s.chunkCalls (sel.map (·.2))
    .ok ({ s.emit (.get (sel.map (·.2)) g.err) with chunkCalls := s.chunkCalls + g.chunks.length },
      g.err)
  else .ok (s, some .enomem)

/-- One answer read at `again:`; `again` is the loop's next turn, for the answers after it. -/
def promptAnswer (answer : CStr) (s : Session)
    (again : Session → Except Fault (Session × Option GpgErr)) :
    Except Fault (Session × Option GpgErr) :=
  let ctrlD := answer.head? = some '\x04'
  let s := if ctrlD then s.emit .quitEcho else s
  let answer := if ctrlD then 'q' :: answer.tail else answer
  if answer.head? = some 'q' ∨ answer.head? = some 'Q' then .ok (s, some .canceled)
  else if 1 ≤ atoi env.parse.longBits answer ∧ atoi env.parse.longBits answer ≤ numdesc then
    match collectNumbers env.parse.longBits numdesc (strsepTokens [' ', ','] answer) [] with
    | none => again (s.emit .tooMany)
    | some [] => again s
    | some nums => getSelection opts env desc numdesc nums s
  else .ok (s, none)

/-- The `again:` loop over the answers; at the end of input the terminal returns Ctrl-D, which
echoes `Q` and quits. -/
def promptLoop : List CStr → Session → Except Fault (Session × Option GpgErr)
  | [], s => .ok (s.emit .quitEcho, some .canceled)
  | a :: rest, s => promptAnswer opts env desc numdesc a { s with answers := rest }
      (promptLoop rest)

/-- `show_prompt (ctrl, desc, numdesc, count, search)`. -/
def showPrompt (count : Int) (search : CStr) (s : Session) :
    Except Fault (Session × Option GpgErr) :=
  let s := s.emit (.showPrompt numdesc count)
  let s :=
    if count ≠ 0 ∧ opts.commandFd = -1 then
      { s.emit (.keysRange s.promptFrom numdesc count search) with promptFrom := numdesc + 1 }
    else s
  promptLoop opts env desc numdesc s.answers s

end Prompt

/-! ## What a prompt does -/

/-- An event `show_prompt` may log, and what it says about the array it reads. -/
def PromptEvent (desc : Option DescArray) (numdesc : Int) : SearchEvent → Prop
  | .showPrompt n _ | .keysRange _ n _ _ => n = numdesc
  | .quitEcho | .tooMany | .malloc _ _ => True
  | .select n sel => n = numdesc ∧ sel.length ≤ numarrayDim ∧
      ∀ p ∈ sel, (p.1 : Int) < numdesc ∧ desc.bind (·.slots p.1) = some p.2
  | .get sel _ => ∀ d ∈ sel, ∃ j : Nat, (j : Int) < numdesc ∧ desc.bind (·.slots j) = some d
  | _ => False

/-- `s'` is `s` with prompt events appended to its log. -/
def PromptExtends (desc : Option DescArray) (numdesc : Int) (s s' : Session) : Prop :=
  ∃ new, s'.log = s.log ++ new ∧ ∀ e ∈ new, PromptEvent desc numdesc e

/-- Every slot below `numdesc` holds a key-id descriptor. -/
def SlotsKeyId (desc : Option DescArray) (numdesc : Int) : Prop :=
  ∀ j : Nat, (j : Int) < numdesc → ∃ d, desc.bind (·.slots j) = some d ∧ d.isKeyId

section PromptSpec

variable {desc : Option DescArray} {numdesc : Int} {s s₁ s₂ : Session}

lemma PromptExtends.refl : PromptExtends desc numdesc s s := ⟨[], by simp, by simp⟩

lemma PromptExtends.trans (h₁ : PromptExtends desc numdesc s s₁)
    (h₂ : PromptExtends desc numdesc s₁ s₂) : PromptExtends desc numdesc s s₂ := by
  obtain ⟨n₁, h₁, p₁⟩ := h₁
  obtain ⟨n₂, h₂, p₂⟩ := h₂
  exact ⟨n₁ ++ n₂, by rw [h₂, h₁, List.append_assoc],
    fun e he => (List.mem_append.mp he).elim (p₁ e) (p₂ e)⟩

lemma promptExtends_emit {e : SearchEvent} (he : PromptEvent desc numdesc e) :
    PromptExtends desc numdesc s (s.emit e) :=
  ⟨[e], rfl, by simpa using he⟩

/-- The numbers collected are in `1..numdesc`, at most `DIM (numarray)` of them. -/
lemma collectNumbers_spec {longBits : Nat} {numdesc : Int} :
    ∀ {toks : List CStr} {acc nums : List Int},
      collectNumbers longBits numdesc toks acc = some nums →
      (∀ n ∈ acc, 1 ≤ n ∧ n ≤ numdesc) → acc.length ≤ numarrayDim →
      (∀ n ∈ nums, 1 ≤ n ∧ n ≤ numdesc) ∧ nums.length ≤ numarrayDim
  | [], _, _, h, hacc, hlen => by cases h; exact ⟨hacc, hlen⟩
  | tok :: rest, acc, nums, h, hacc, hlen => by
    simp only [collectNumbers] at h
    split_ifs at h with hin hfull
    · exact collectNumbers_spec h
        (fun n hn => (List.mem_append.mp hn).elim (hacc n) (by simp_all))
        (by simp only [List.length_append, List.length_singleton]; omega)
    · exact collectNumbers_spec h hacc hlen

/-- Reading numbers in `1..numdesc` from slots that hold descriptors succeeds, and yields for each
number the slot below it. -/
lemma readSelection_spec (hslots : SlotsKeyId desc numdesc) :
    ∀ {nums : List Int}, (∀ n ∈ nums, 1 ≤ n ∧ n ≤ numdesc) →
      ∃ sel, readSelection desc nums = .ok sel ∧ sel.length = nums.length ∧
        ∀ p ∈ sel, (p.1 : Int) < numdesc ∧ desc.bind (·.slots p.1) = some p.2 ∧ p.2.isKeyId
  | [], _ => ⟨[], rfl, rfl, by simp⟩
  | n :: ns, hn => by
    obtain ⟨h1, h2⟩ := hn n (List.mem_cons_self _ _)
    have hj : (((n - 1).toNat : Nat) : Int) < numdesc := by omega
    obtain ⟨d, hd, hkey⟩ := hslots _ hj
    obtain ⟨sel, hsel, hlen, hp⟩ :=
      readSelection_spec hslots fun m hm => hn m (List.mem_cons_of_mem _ hm)
    refine ⟨((n - 1).toNat, d) :: sel, ?_, by simp [hlen], ?_⟩
    · simp only [readSelection, DescArray.read, hd, hsel]
      rfl
    · rintro p (_ | ⟨_, hp'⟩)
      · exact ⟨hj, hd, hkey⟩
      · exact hp p hp'

/-- A prompt step returned, appending only prompt events and leaving `from` alone. -/
def PromptResult (desc : Option DescArray) (numdesc : Int) (s : Session)
    (r : Except Fault (Session × Option GpgErr)) : Prop :=
  ∃ s' err, r = .ok (s', err) ∧ PromptExtends desc numdesc s s' ∧ s'.promptFrom = s.promptFrom

variable {S : Type} (opts : SearchOpts) (env : SearchEnv S)

/-- Fetching numbers in `1..numdesc`, at most 50 of them, from key-id slots returns. -/
lemma getSelection_spec (hslots : SlotsKeyId desc numdesc) {nums : List Int}
    (hn : ∀ n ∈ nums, 1 ≤ n ∧ n ≤ numdesc) (hlen : nums.length ≤ numarrayDim) (s : Session) :
    PromptResult desc numdesc s (getSelection opts env desc numdesc nums s) := by
  obtain ⟨sel, hsel, hsl, hp⟩ := readSelection_spec hslots hn
  have hchunk : ∀ d ∈ sel.map (·.2), d.chunkable := by
    intro d hd
    obtain ⟨p, hp', rfl⟩ := List.mem_map.mp hd
    simp [KeydbSearchDesc.chunkable, KeydbSearchDesc.isGetMode_of_isKeyId (hp p hp').2.2]
  unfold getSelection Session.alloc
  dsimp only
  split
  · obtain ⟨g, hg, -⟩ := keyserverGetLoop_ok env.chunk _ s.chunkCalls false hchunk
    refine ⟨_, _, by simp only [hsel, keyserverGet, Session.emit, bind, Except.bind, hg]; rfl,
      ⟨[.malloc (nums.length * opts.descSize) (env.allocOk s.allocs), .select numdesc sel,
        .get (sel.map (·.2)) g.err], by simp [Session.emit], ?_⟩, ?_⟩
    swap
    · rfl
    simp only [List.mem_cons, List.mem_singleton, forall_eq_or_imp, forall_eq, PromptEvent,
      List.not_mem_nil, or_false, true_and, List.mem_map]
    refine ⟨⟨hsl ▸ hlen, fun p hp' => ⟨(hp p hp').1, (hp p hp').2.1⟩⟩, ?_⟩
    rintro d ⟨p, hp', rfl⟩
    exact ⟨p.1, (hp p hp').1, (hp p hp').2.1⟩
  · exact ⟨_, _, rfl, ⟨_, rfl, List.forall_mem_singleton.mpr trivial⟩, rfl⟩

/-- One answer: whatever it is, the prompt returns, or goes round again with prompt events
appended. -/
lemma promptAnswer_spec (hslots : SlotsKeyId desc numdesc)
    {again : Session → Except Fault (Session × Option GpgErr)}
    (hagain : ∀ s₁, PromptExtends desc numdesc s s₁ → s₁.promptFrom = s.promptFrom →
      PromptResult desc numdesc s (again s₁)) (answer : CStr) :
    PromptResult desc numdesc s (promptAnswer opts env desc numdesc answer s again) := by
  unfold promptAnswer
  dsimp only
  have hs₁ :
      PromptExtends desc numdesc s (if answer.head? = some '\x04' then s.emit .quitEcho else s) ∧
      (if answer.head? = some '\x04' then s.emit .quitEcho else s).promptFrom = s.promptFrom := by
    split
    · exact ⟨promptExtends_emit trivial, rfl⟩
    · exact ⟨PromptExtends.refl, rfl⟩
  generalize (if answer.head? = some '\x04' then s.emit .quitEcho else s) = s₁ at hs₁ ⊢
  generalize (if answer.head? = some '\x04' then 'q' :: answer.tail else answer) = answer
  split_ifs
  · exact ⟨_, _, rfl, hs₁.1, hs₁.2⟩
  · split
    · exact hagain _ (hs₁.1.trans (promptExtends_emit trivial)) hs₁.2
    · exact hagain _ hs₁.1 hs₁.2
    · next nums hnums =>
      obtain ⟨hn, hlen⟩ := collectNumbers_spec hnums (by simp) (by simp)
      obtain ⟨s', err, h, h', hf⟩ := getSelection_spec opts env hslots hn hlen s₁
      exact ⟨s', err, h, hs₁.1.trans h', hf.trans hs₁.2⟩
  · exact ⟨_, _, rfl, hs₁.1, hs₁.2⟩

/-- The `again:` loop returns whatever the answers, appending prompt events only. -/
lemma promptLoop_spec (hslots : SlotsKeyId desc numdesc) :
    ∀ (answers : List CStr) (s : Session),
      PromptResult desc numdesc s (promptLoop opts env desc numdesc answers s)
  | [], _ => ⟨_, _, rfl, promptExtends_emit trivial, rfl⟩
  | _ :: rest, s => promptAnswer_spec opts env hslots (fun s₁ h₁ hf => by
      obtain ⟨s', err, h, h', hf'⟩ := promptLoop_spec hslots rest s₁
      exact ⟨s', err, h, h₁.trans h', hf'.trans hf⟩) _

/-- **`show_prompt` returns**, on an array whose slots below `numdesc` hold key-id descriptors,
whatever the user answers and whatever `keyserver_get`'s collaborators do.  It only appends
prompt events to the log: every selection lists at most 50 numbers and copies `desc[j]` with
`j < numdesc`; and it moves `from` to `numdesc + 1` exactly when it prints the range. -/
theorem showPrompt_spec (hslots : SlotsKeyId desc numdesc) (count : Int) (search : CStr)
    (s : Session) :
    ∃ s' err, showPrompt opts env desc numdesc count search s = .ok (s', err) ∧
      PromptExtends desc numdesc s s' ∧
      s'.promptFrom = if count ≠ 0 ∧ opts.commandFd = -1 then numdesc + 1 else s.promptFrom := by
  unfold showPrompt
  dsimp only
  have h₀ : PromptExtends desc numdesc s (s.emit (.showPrompt numdesc count)) :=
    promptExtends_emit rfl
  split_ifs with hc
  · obtain ⟨s', err, h, h', hf⟩ := promptLoop_spec opts env hslots _
      { (s.emit (.showPrompt numdesc count)).emit
          (.keysRange (s.emit (.showPrompt numdesc count)).promptFrom numdesc count search) with
        promptFrom := numdesc + 1 }
    exact ⟨s', err, h, h₀.trans ((promptExtends_emit (e := .keysRange _ _ _ _) rfl).trans h'), hf⟩
  · obtain ⟨s', err, h, h', hf⟩ := promptLoop_spec opts env hslots _
      (s.emit (.showPrompt numdesc count))
    exact ⟨s', err, h, h₀.trans h', hf⟩

end PromptSpec

end NeoPG
