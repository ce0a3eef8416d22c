import NeoPG.Search.Prompt

/-!
# The search session: `search_line_handler` and `keyserver_search`

`keyserver_search` hands `search_line_handler` to the dirmngr transport, which calls it once per
line of the keyserver's answer and once more with `NULL` at the end.  The handler keeps its state
in `struct search_line_handler_parm_s`: the descriptor array `desc` with its element `count`, the
number of records stored `nkeys`, and the flags `any_lines`, `eof_seen`, `not_found`.

* The first data line of a session may be an `info:` header, which checks the protocol version
  and declares how many keys follow (`infoLine`).
* Every other line goes to `parse_keyrec`; a record it hands back is stored into `desc`, which
  is allocated on the first record and grown by ten when full, and, without `--with-colons`,
  printed, after a prompt when the screen is full (`saveKeyrec`).
* At EOF the record still open is flushed and stored, and `goto again` returns to the flush until
  it hands back nothing; then a session without records is marked not found, and one with
  records ends at a last prompt (`againAtEof`).

`andThenOk` is the C's `if (err) return err;`: every step of `saveKeyrec` and of the EOF branch
goes through it, so that a property kept by each step is kept by the whole handler with one
lemma.  The transport stops calling the handler at the first error it returns (`searchRun`).

The byte sizes handed to the allocator are computed as the C computes them: an `int` count
converted to `size_t` and multiplied by `sizeof (KEYDB_SEARCH_DESC)` modulo `2 ^ sizeBits`
(`SearchOpts.descBytes`).  `count + 10` is `int` arithmetic; a result beyond `INT_MAX` is
`Fault.signedOverflow`.
-/

namespace NeoPG

/-! ## The handler's state -/

/-- `struct search_line_handler_parm_s`, without the `ctrl` it passes on. -/
structure SearchLineHandlerParm where
  /-- The search string as shown to the user. -/
  searchstrDisp : CStr
  desc : Option DescArray
  count : Int
  /-- Whether the "Keys x-y of z" messages show `count`. -/
  validcount : Bool
  nkeys : Nat
  anyLines : Bool
  numlines : UInt32
  eofSeen : Bool
  notFound : Bool

/-- `memset (&parm, 0, sizeof parm)`, with the display string set. -/
def SearchLineHandlerParm.init (search : CStr) : SearchLineHandlerParm :=
  ⟨search, none, 0, false, 0, false, 0, false, false⟩

/-- The handler's `parm` and the rest of the session. -/
structure SearchState where
  parm : SearchLineHandlerParm
  session : Session

/-- The state `keyserver_search` hands the transport: `parm` cleared but for the display
string, and a session that has logged nothing, with `from` and the answers as they stand. -/
def SearchState.start (disp : CStr) (promptFrom : Int) (answers : List CStr) : SearchState :=
  ⟨SearchLineHandlerParm.init disp, ⟨promptFrom, answers, 0, 0, []⟩⟩

/-- `parm->eof_seen = 1`. -/
def SearchState.setEofSeen (st : SearchState) : SearchState :=
  { st with parm := { st.parm with eofSeen := true } }

@[simp] lemma SearchState.setEofSeen_parm (st : SearchState) :
    st.setEofSeen.parm = { st.parm with eofSeen := true } := rfl

@[simp] lemma SearchState.setEofSeen_session (st : SearchState) :
    st.setEofSeen.session = st.session := rfl

/-- One call of the handler: `special`, and `line` with NULL as `none`. -/
structure HandlerCall where
  special : Int
  line : Option CStr
  deriving DecidableEq

/-- `n * sizeof *parm->desc` for an `int` `n`: converted to `size_t`, multiplied modulo the
width of `size_t`. -/
def SearchOpts.descBytes (opts : SearchOpts) (n : Int) : Nat :=
  (n % 2 ^ opts.sizeBits).toNat * opts.descSize % 2 ^ opts.sizeBits

/-- The number of whole descriptors a buffer of `bytes` bytes holds. -/
def SearchOpts.capacity (opts : SearchOpts) (bytes : Nat) : Nat := bytes / opts.descSize

/-- `if (err) return err;`: go on with `k` only when the step returned no error. -/
def andThenOk {α : Type} (r : Except Fault (α × Option GpgErr))
    (k : α → Except Fault (α × Option GpgErr)) : Except Fault (α × Option GpgErr) :=
  match r with
  | .error f => .error f
  | .ok (a, some e) => .ok (a, some e)
  | .ok (a, none) => k a

@[simp] lemma andThenOk_none {α : Type} (a : α) (k : α → Except Fault (α × Option GpgErr)) :
    andThenOk (.ok (a, none)) k = k a := rfl

section Handler

variable {S : Type} (opts : SearchOpts) (env : SearchEnv S)

/-! ## Storing a record -/

/-- Allocate or enlarge the key array if needed.  The first record allocates `count` elements
(ten when the declared count is below one); a record arriving when `nkeys = count` grows the
array by ten.  A failed allocation returns its error. -/
def allocDesc (st : SearchState) : Except Fault (SearchState × Option GpgErr) :=
  let p := st.parm
  match p.desc with
  | none =>
    let p := if p.count < 1 then { p with count := 10, validcount := false } else p
    let bytes := opts.descBytes p.count
    let (ok, s) := st.session.alloc env bytes false
    if ok then .ok (⟨{ p with desc := some ⟨p.count, bytes, fun _ => none⟩ }, s⟩, none)
    else .ok (⟨p, s⟩, some .enomem)
  | some a =>
    if (p.nkeys : Int) = p.count then
      let newcount := p.count + 10
      if 2 ^ 31 ≤ newcount then .error .signedOverflow
      else
        let bytes := opts.descBytes newcount
        let (ok, s) := st.session.alloc env bytes true
        if ok then
          .ok (⟨{ p with
              count := newcount
              desc := some ⟨newcount, bytes,
                fun j => if j < opts.capacity bytes then a.slots j else none⟩
              validcount := false }, s⟩, none)
        else .ok (⟨p, s⟩, some .enomem)
    else .ok (st, none)

/-- `parm->desc[parm->nkeys] = keyrec->desc`; a store outside the buffer is a fault. -/
def storeDesc (st : SearchState) (d : KeydbSearchDesc) : Except Fault SearchState :=
  match st.parm.desc with
  | none => .error .storeOutOfBounds
  | some a =>
    if st.parm.nkeys < opts.capacity a.bytes then
      .ok ⟨{ st.parm with
          desc := some { a with
            slots := fun j => if j = st.parm.nkeys then some d else a.slots j } },
        st.session.emit (.storeDesc st.parm.nkeys a.elems d)⟩
    else .error .storeOutOfBounds

/-- Without `--with-colons` the record is printed as number `nkeys + 1`, after a prompt when it
would not fit on the screen (`SCREEN_LINES - 1` for the prompt). -/
def showKeyrec (st : SearchState) (k : Keyrec) : Except Fault (SearchState × Option GpgErr) :=
  let p := st.parm
  let print (st : SearchState) : Except Fault (SearchState × Option GpgErr) :=
    (printKeyrec env.print (st.parm.nkeys + 1) k).map fun text =>
      ({ st with session := st.session.emit (.keyrec (st.parm.nkeys + 1) k text) }, none)
  if p.numlines + k.lines > opts.screenLines - 1 then
    andThenOk ((showPrompt opts env p.desc p.nkeys (if p.validcount then p.count else 0)
        p.searchstrDisp st.session).map fun (s, err) => (⟨p, s⟩, err))
      fun st => print { st with parm := { st.parm with numlines := 0 } }
  else print st

/-- The end of storing: the record's lines are counted, and `nkeys` moves on. -/
def countKeyrec (st : SearchState) (k : Keyrec) : SearchState :=
  { st with parm := { st.parm with
      numlines := st.parm.numlines + k.lines, anyLines := true, nkeys := st.parm.nkeys + 1 } }

/-- "Save the key in the key array." -/
def saveKeyrec (st : SearchState) (k : Keyrec) : Except Fault (SearchState × Option GpgErr) :=
  andThenOk (allocDesc opts env st) fun st =>
  (storeDesc opts st k.desc).bind fun st =>
  andThenOk (if opts.withColons then .ok (st, none) else showKeyrec opts env st k) fun st =>
  .ok (countKeyrec st k, none)

/-! ## The handler -/

/-- The protocol version an `info:` header declares: its first field, 1 when `sscanf` cannot
read it.  The token `gpg_strsep` takes from the non-NULL rest of the line always exists. -/
def infoVersion (longBits : Nat) (line : CStr) : Int :=
  (sscanfD longBits (strsepToken [':'] (line.drop 5))).getD 1

/-- The key count an `info:` header declares: its second field, when there is one and `sscanf`
reads it. -/
def infoCount (longBits : Nat) (line : CStr) : Option Int :=
  (gpgStrsep [':'] (strsepRest [':'] (line.drop 5))).bind fun (tok, _) => sscanfD longBits tok

lemma infoCount_bounds {longBits : Nat} {line : CStr} {c : Int}
    (h : infoCount longBits line = some c) :
    -2 ^ 31 ≤ c ∧ c < 2 ^ 31 := by
  obtain ⟨_, -, h⟩ := Option.bind_eq_some.mp h
  exact sscanfD_lt h

/-- The `info:` header.  The protocol version must be 1; a declared count of 0 marks the search
not found, a negative count is replaced by 10, a positive one makes the count valid for
display. -/
def infoLine (longBits : Nat) (st : SearchState) (line : CStr) : SearchState × Option GpgErr :=
  let p := st.parm
  if infoVersion longBits line ≠ 1 then (st, some .unsupportedProtocol)
  else
    let p :=
      match infoCount longBits line with
      | some c =>
        if c = 0 then { p with count := c, notFound := true }
        else if c < 0 then { p with count := 10 }
        else { p with count := c, validcount := true }
      | none => p
    (⟨{ p with anyLines := true }, st.session⟩, none)

/-- `again:` with a data line: the record the line completes, if any, is saved.  With a line,
`eof_seen` is clear, so there is no `goto again`. -/
def againLine (work : WorkSlot) (st : SearchState) (line : CStr) :
    Except Fault (WorkSlot × SearchState × Option GpgErr) :=
  match parseKeyrec env.parse work (some line) with
  | .error f => .error f
  | .ok (work, none) => .ok (work, st, none)
  | .ok (work, some k) => (saveKeyrec opts env st k).map fun (st, err) => (work, st, err)

/-- At EOF with nothing left to flush: a session without records is not found; otherwise the
count stays valid only if it was met exactly, and, unless `--with-colons --batch`, the last
prompt is shown. -/
def eofNoRecord (st : SearchState) : Except Fault (SearchState × Option GpgErr) :=
  let p := st.parm
  if p.nkeys = 0 then .ok (⟨{ p with notFound := true }, st.session⟩, none)
  else
    let p := if (p.nkeys : Int) ≠ p.count then { p with validcount := false } else p
    if opts.withColons ∧ opts.batch then .ok (⟨p, st.session⟩, none)
    else
      (showPrompt opts env p.desc p.nkeys (if p.validcount then p.count else 0) p.searchstrDisp
        st.session).map fun (s, err) => (⟨p, s⟩, err)

/-- `again:` at EOF: the flush, the record it hands back saved, and `goto again` until it hands
back nothing.  The flush clears `work` whenever it hands a record back, so the loop goes round at
most twice. -/
@[semireducible] def againAtEof (work : WorkSlot) (st : SearchState) :
    Except Fault (WorkSlot × SearchState × Option GpgErr) :=
  let st := st.setEofSeen
  match _h : parseKeyrec env.parse work none with
  | .error f => .error f
  | .ok (work', none) => (eofNoRecord opts env st).map fun (st, err) => (work', st, err)
  | .ok (work', some k) =>
    match saveKeyrec opts env st k with
    | .error f => .error f
    | .ok (st, some e) => .ok (work', st, some e)
    | .ok (st, none) => againAtEof work' st
termination_by work.pending.length
decreasing_by
  obtain ⟨h1, h2⟩ := parseKeyrecFlush_pending _h
  rw [h2, ← h1]
  simp

/-- `search_line_handler (parm, special, line)`, with `parse_keyrec`'s static `work`.  Special
lines are only logged; data after EOF is treated as EOF again. -/
def searchLineHandler (work : WorkSlot) (st : SearchState) (call : HandlerCall) :
    Except Fault (WorkSlot × SearchState × Option GpgErr) :=
  if call.special ≠ 0 then .ok (work, st, none)
  else
    match if st.parm.eofSeen then none else call.line with
    | none => againAtEof opts env work st
    | some line =>
      let st := if opts.withColons then { st with session := st.session.emit (.colonLine line) }
        else st
      if !st.parm.anyLines ∧ asciiStrncasecmpEq "info:".toList line 5 then
        .ok (work, infoLine env.parse.longBits st line)
      else againLine opts env work st line

/-! ## The session -/

/-- The transport's side of `gpg_dirmngr_ks_search`: the handler is called for each line in
order, and not again once it has returned an error. -/
def searchRun (work : WorkSlot) (st : SearchState) :
    List HandlerCall → Except Fault (WorkSlot × SearchState × Option GpgErr)
  | [] => .ok (work, st, none)
  | c :: cs =>
    match searchLineHandler opts env work st c with
    | .error f => .error f
    | .ok (work, st, some e) => .ok (work, st, some e)
    | .ok (work, st, none) => searchRun work st cs

end Handler

/-- The process-wide statics a search leaves behind: `parse_keyrec`'s `work` and `show_prompt`'s
`from`. -/
structure Statics where
  work : WorkSlot
  promptFrom : Int
  deriving DecidableEq

/-- The statics at process start. -/
def Statics.init : Statics := ⟨.null, 1⟩

/-- What the dirmngr does in `gpg_dirmngr_ks_search`: the handler calls it makes, and the error
it ends with when the handler returned none. -/
structure KsSearch where
  calls : List HandlerCall
  err : Option GpgErr

/-- What `keyserver_search` returns and reports. -/
structure SearchResult where
  err : Option GpgErr
  /-- Whether "key not found on keyserver" is reported. -/
  notFound : Bool
  log : List SearchEvent
  deriving DecidableEq

/-- `keyserver_search (ctrl, tokens)`: the tokens joined by blanks are searched for, and the
session runs from the statics earlier searches left. -/
def keyserverSearch {S : Type} (opts : SearchOpts) (env : SearchEnv S) (statics : Statics)
    (tokens : List CStr) (ks : KsSearch) (answers : List CStr) :
    Except Fault (Statics × SearchResult) :=
  if tokens = [] then .ok (statics, ⟨none, false, []⟩)
  else
    let disp := env.parse.utf8ToNative ([' '].intercalate tokens)
    (searchRun opts env statics.work (.start disp statics.promptFrom answers) ks.calls).map
      fun (work, st, err) =>
        (⟨work, st.session.promptFrom⟩, ⟨err <|> ks.err, st.parm.notFound, st.session.log⟩)

end NeoPG
