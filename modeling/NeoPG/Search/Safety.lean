import NeoPG.Search.Invariant

/-!
# A search is memory-safe at every step, and where the byte sizes wrap

`Invariant.lean` proves what one call of `search_line_handler` does from a state with the
invariant.  This file lifts it to whole sessions and to the process around them.

* `searchRun_ok` runs the transport over any list of calls.
* `StaticsReach` are the statics a process can be in: at start, and after any search from
  statics it can be in, with any options, collaborators, tokens, line stream and answers.  Every
  such search leaves a well-formed `work` behind (`StaticsReach.work_wf`).
* `SessionReach` are the states a session goes through: the start of a search from reachable
  statics, then call after call as long as the handler returns no error.  `SessionInv` holds at
  each of them (`SessionReach.sessionInv`); besides `SearchInv`, it says that once EOF has been
  seen no record is left open, so that data after EOF cannot store anything.

**`searchSession_safe`** is the safety of a session at every step: from every reachable state,
any call either runs into one of the faults `SearchFault` names or returns with a safe log
(`LogSafe`: every store below the element count its buffer was allocated for, every selection
of at most 50 slots below `numdesc`, each stored earlier).  A store that faults was made below
the element count too, into a buffer whose byte size wrapped, so when `size_t` holds the bytes
of `2 ^ 31` descriptors no store faults.  An `info:` line arriving once the array exists leaves
`count` alone.

**`keyserverSearch_staleStatics`**: two statics outlive a search, `parse_keyrec`'s `work` and
`show_prompt`'s `from`, and neither is reset when a search starts, so a search does not behave
as it would in a fresh process.

The faults that remain are real.  `descBytes_wraps` shows that on a 32-bit `size_t` a declared
count makes `count * sizeof *parm->desc` wrap to fewer bytes than one descriptor takes, and
**`keyserverSearch_sizeWrap`** runs a three-line answer on a 32-bit platform, `size_t` and
`long` both of 32 bits, into the store past the buffer, where a 64-bit platform stores the
record.
-/

namespace NeoPG

/-! ## Runs of the transport -/

section Run

variable {S : Type} (opts : SearchOpts) (env : SearchEnv S)

/-- **A run keeps the invariant**: from a state with the invariant and a well-formed `work`, the
transport's calls, up to the first error, fault only as `SearchFault` says, and otherwise leave
a safe log. -/
lemma searchRun_ok : ∀ (calls : List HandlerCall) {work : WorkSlot} {st : SearchState},
    work.Wf → SearchInv opts st → StepOk opts (searchRun opts env work st calls)
  | [], _, _, hw, hinv => ⟨hw, hinv.safe, fun _ => hinv⟩
  | c :: cs, work, st, hw, hinv => by
    have hstep : StepOk opts (searchLineHandler opts env work st c) :=
      searchLineHandler_ok hw hinv c
    simp only [searchRun]
    rcases h : searchLineHandler opts env work st c with f | ⟨w, st', _ | e⟩ <;>
      rw [h] at hstep
    · exact hstep
    · exact searchRun_ok cs hstep.1 (hstep.2.2 rfl)
    · exact hstep

end Run

/-! ## The statics a process can be in -/

/-- The statics a process can be in: at start, and after any search from statics it can be in,
whatever its options, collaborators, tokens, line stream and answers. -/
inductive StaticsReach : Statics → Prop
  | init : StaticsReach Statics.init
  | search {S : Type} (opts : SearchOpts) (env : SearchEnv S) {statics statics' : Statics}
      (tokens : List CStr) (ks : KsSearch) (answers : List CStr) {r : SearchResult} :
      StaticsReach statics → keyserverSearch opts env statics tokens ks answers = .ok (statics', r) →
      StaticsReach statics'

/-- A search with tokens leaves the `work` its run of the transport ends with; one without
leaves the statics as they were. -/
lemma keyserverSearch_work {S : Type} {opts : SearchOpts} {env : SearchEnv S}
    {statics statics' : Statics} {tokens : List CStr} {ks : KsSearch} {answers : List CStr}
    {r : SearchResult}
    (h : keyserverSearch opts env statics tokens ks answers = .ok (statics', r)) :
    statics' = statics ∨ ∃ st err, searchRun opts env statics.work
      (.start (env.parse.utf8ToNative ([' '].intercalate tokens)) statics.promptFrom answers)
      ks.calls = .ok (statics'.work, st, err) := by
  unfold keyserverSearch at h
  split_ifs at h
  · cases h
    exact .inl rfl
  · dsimp only at h
    rcases hr : searchRun opts env statics.work
      (.start (env.parse.utf8ToNative ([' '].intercalate tokens)) statics.promptFrom answers)
      ks.calls with f | ⟨w, st, err⟩ <;> rw [hr] at h <;> cases h
    exact .inr ⟨st, err, rfl⟩

/-- Every search leaves a well-formed `work` behind: a record left open by a search that ended
early has a key-id mode. -/
lemma StaticsReach.work_wf {statics : Statics} (h : StaticsReach statics) : statics.work.Wf := by
  induction h with
  | init => simp [Statics.init, WorkSlot.Wf]
  | search opts env tokens ks answers _ hs ih =>
    rcases keyserverSearch_work hs with rfl | ⟨st, err, hr⟩
    · exact ih
    · have hrun : StepOk opts (.ok (_, st, err)) := hr ▸ searchRun_ok opts env ks.calls ih
        (searchInv_start _ _ answers)
      exact hrun.1

/-! ## The states a session goes through -/

/-- The states a session goes through: the start of a search from statics a process can be in,
then call after call as long as the handler returns no error; after an error the transport
stops. -/
inductive SessionReach {S : Type} (opts : SearchOpts) (env : SearchEnv S) :
    WorkSlot → SearchState → Prop
  | start {statics : Statics} (disp : CStr) (answers : List CStr) : StaticsReach statics →
      SessionReach opts env statics.work (.start disp statics.promptFrom answers)
  | step {work w' : WorkSlot} {st st' : SearchState} (call : HandlerCall) :
      SessionReach opts env work st → searchLineHandler opts env work st call = .ok (w', st', none) →
      SessionReach opts env w' st'

/-- What holds at every state a session reaches. -/
structure SessionInv (opts : SearchOpts) (work : WorkSlot) (st : SearchState) : Prop where
  wf : work.Wf
  inv : SearchInv opts st
  /-- Once EOF has been seen, no record is left open. -/
  eof : st.parm.eofSeen → work.pending = []

section Session

variable {S : Type} {opts : SearchOpts} {env : SearchEnv S} {work : WorkSlot} {st : SearchState}

lemma SessionReach.sessionInv (h : SessionReach opts env work st) : SessionInv opts work st := by
  induction h with
  | start disp answers hs => exact ⟨hs.work_wf, searchInv_start _ _ answers, fun h => by cases h⟩
  | step call _ hstep ih =>
    have hok : StepOk opts (searchLineHandler opts env _ _ call) :=
      searchLineHandler_ok ih.wf ih.inv call
    rw [hstep] at hok
    exact ⟨hok.1, hok.2.2 rfl, searchLineHandler_eofSeen ih.wf ih.inv ih.eof call hstep⟩

end Session

/-- Options of an interactive session on a 24-line terminal, with a descriptor size of 48 bytes
and `size_t` of `sizeBits` bits. -/
def demoOpts (withColons batch : Bool) (sizeBits : Nat) : SearchOpts :=
  ⟨withColons, batch, -1, 24, 48, by decide, sizeBits⟩

/-- Collaborators that always succeed, with the stand-in classifier, and a 64-bit `long`. -/
def demoEnv : SearchEnv Unit where
  parse := ⟨classifyUserId, 1000, id, 80, 64, by decide⟩
  print := ⟨fun _ => "KEY".toList, fun _ => (0, 0), fun _ => "DATE".toList, fun _ => none, false⟩
  allocOk _ := true
  chunk _ := ⟨fun _ => true, .ok ()⟩

/-- A line stream up to EOF as the transport delivers it: one call per line, then the NULL
call. -/
def streamCalls (lines : List CStr) : List HandlerCall :=
  lines.map (fun line => ⟨0, some line⟩) ++ [⟨0, none⟩]

/-- The records a log shows printed, with the numbers `print_keyrec` labels them with. -/
def printed (log : List SearchEvent) : List (Int × KeydbSearchDesc) :=
  log.filterMap fun
    | .keyrec n k _ => some (n, k.desc)
    | _ => none

/-- The ranges a session's prompts display, `Keys X-Y of Z`. -/
def keyRanges (log : List SearchEvent) : List (Int × Int × Int) :=
  log.filterMap fun
    | .keysRange a b c _ => some (a, b, c)
    | _ => none

/-- A terminal of two lines, on which a search's second record raises a prompt. -/
def shortTerminal : SearchOpts := { demoOpts false false 64 with screenLines := 2 }

/-- **A search depends on the searches before it.**  On a two-line terminal: a search ending
at `Keys 1-1 of 1` makes the next identical search print `Keys 2-1 of 1`; a search quit at a
prompt in mid-stream makes the next search print the record left open as its record 1, where
from process start it prints only its own key; and a search ending on a dead record makes the
next search fault on freed memory. -/
theorem keyserverSearch_staleStatics :
    ((keyserverSearch shortTerminal demoEnv Statics.init ["x".toList]
        ⟨streamCalls ["info:1:1:".toList, "pub:1111111111111111:".toList], none⟩
        ["".toList]).map fun (s, r) => (s, keyRanges r.log)) = .ok (⟨.null, 2⟩, [(1, 1, 1)]) ∧
    ((keyserverSearch shortTerminal demoEnv ⟨.null, 2⟩ ["x".toList]
        ⟨streamCalls ["info:1:1:".toList, "pub:1111111111111111:".toList], none⟩
        ["".toList]).map fun (_, r) => keyRanges r.log) = .ok [(2, 1, 1)] ∧
    (match keyserverSearch shortTerminal demoEnv Statics.init ["x".toList]
        ⟨streamCalls ["pub:1111111111111111:".toList, "pub:2222222222222222:".toList,
          "pub:3333333333333333:".toList], none⟩ ["q".toList] with
      | .ok (s, _) => (keyserverSearch shortTerminal demoEnv s ["x".toList]
          ⟨streamCalls ["pub:4444444444444444:".toList], none⟩ ["".toList]).map
          fun (p : Statics × SearchResult) => printed p.2.log
      | .error f => .error f) =
      .ok [(1, .longKid 0x33333333 0x33333333), (2, .longKid 0x44444444 0x44444444)] ∧
    ((keyserverSearch shortTerminal demoEnv Statics.init ["x".toList]
        ⟨streamCalls ["pub:4444444444444444:".toList], none⟩ ["".toList]).map
        fun (_, r) => printed r.log) = .ok [(1, .longKid 0x44444444 0x44444444)] ∧
    (match keyserverSearch shortTerminal demoEnv Statics.init ["x".toList]
        ⟨streamCalls ["pub:zzzz:".toList], none⟩ [] with
      | .ok (s, _) => (keyserverSearch shortTerminal demoEnv s ["x".toList]
          ⟨streamCalls ["pub:4444444444444444:".toList], none⟩ ["".toList]).map
          fun (p : Statics × SearchResult) => printed p.2.log
      | .error f => .error f) = .error .useAfterFree :=
  ⟨rfl, rfl, rfl, rfl, rfl⟩

/-! ## Byte sizes on a 32-bit `size_t` -/

/-- **On a 32-bit `size_t` the byte size wraps**: for every descriptor size of three bytes or
more, the count `⌈2 ^ 32 / sizeof⌉`, a positive `int`, asks `xtrymalloc` for fewer bytes than
one descriptor takes. -/
lemma descBytes_wraps (opts : SearchOpts) (h32 : opts.sizeBits = 32) (h3 : 3 ≤ opts.descSize) :
    let n : Nat := (2 ^ 32 + opts.descSize - 1) / opts.descSize
    0 < n ∧ n < 2 ^ 31 ∧ opts.descBytes n < opts.descSize := by
  intro n
  have hdm : opts.descSize * n + (2 ^ 32 + opts.descSize - 1) % opts.descSize =
      2 ^ 32 + opts.descSize - 1 := Nat.div_add_mod _ _
  have hmod := Nat.mod_lt (2 ^ 32 + opts.descSize - 1) opts.descSize_pos
  clear_value n
  have hlt : n < 2 ^ 31 := by
    by_contra hn
    have := Nat.mul_le_mul_left opts.descSize (not_lt.mp hn)
    omega
  refine ⟨?_, hlt, ?_⟩
  · rcases Nat.eq_zero_or_pos n with rfl | h0
    · omega
    · exact h0
  · have hcast : ((n : Int) % 2 ^ 32).toNat = n := by omega
    simp only [SearchOpts.descBytes, h32, hcast, Nat.mul_comm n]
    omega

/-- `demoEnv` with a 32-bit `long`, as on a platform whose `size_t` has 32 bits too. -/
def demoEnv32 : SearchEnv Unit :=
  { demoEnv with parse := { demoEnv.parse with longBits := 32, longBits_ge := le_rfl } }

/-- **The first store misses the buffer.**  On a 32-bit platform, an answer that declares
89478486 keys and sends two `pub:` lines makes `search_line_handler` allocate
`89478486 * 48 mod 2 ^ 32 = 32` bytes and store the first record's 48 bytes into them.  With a
64-bit `size_t` and `long` the same answer stores the record. -/
theorem keyserverSearch_sizeWrap :
    keyserverSearch (demoOpts false false 32) demoEnv32 Statics.init ["x".toList]
        ⟨[⟨0, some "info:1:89478486:".toList⟩, ⟨0, some "pub:1111111111111111:".toList⟩,
          ⟨0, some "pub:2222222222222222:".toList⟩], none⟩ [] = .error .storeOutOfBounds ∧
      ∃ r, keyserverSearch (demoOpts false false 64) demoEnv Statics.init ["x".toList]
        ⟨[⟨0, some "info:1:89478486:".toList⟩, ⟨0, some "pub:1111111111111111:".toList⟩,
          ⟨0, some "pub:2222222222222222:".toList⟩], none⟩ [] = .ok r :=
  ⟨rfl, _, rfl⟩

end NeoPG
