import Mathlib.Data.UInt
import NeoPG.Search.RefBlocks
import NeoPG.Search.Order

/-!
# Paging: how many screen lines the records between two prompts take

Without `--with-colons`, `search_line_handler` keeps the screen from scrolling: before printing
a record it adds the record's `lines` to `parm->numlines`, and when the sum would pass
`opt.screen_lines - 1` it shows the prompt first and starts over at 0.  Whether that keeps the
records between two prompts on one screen rests on two counters agreeing: the `lines` that
`parse_keyrec` accumulates (1 for the `pub:` line, 1 per user id) and the newlines
`print_keyrec` writes, the user ids' `"\n\t"` and its closing `"\n"`.

**Agreement.**  `printKeyrec_newlines` counts the newlines of a printed record: one per user id
in `uidbuf`, and one more, as long as the collaborators that fill in the line (`keystr`,
`strtimestamp`, the algorithm names) write none.  `parseKeyrec_counted` shows that every record
`parse_keyrec` builds or hands back has `lines = 1 + newlines uidbuf`, as a `u32`, as long as
`utf8_to_native` writes no newline.  Both counters are `u32`: they agree modulo `2^32` only.

**Pages.**  `lastPage` is the list of lines printed since the last prompt, and `PageAt log n`
says that at some point of the log at least two records printed since the last prompt hold `n`
newlines: the claim of the paging code is that `n` is at most `screen_lines - 1`.
`PageInv` is what holds between two calls of the handler: the log is `PagedLog` (every record
printed with its newline count as `lines`, modulo `2^32`, and every page fitting, modulo
`2^32`), and `numlines` is the newline count of the last page, modulo `2^32`, until EOF.

* **`keyserverSearch_pages`**: in an interactive search from any statics a process reaches while
  `utf8_to_native` escapes newlines, over any stream of handler calls and any answers, every
  record printed has as many lines counted as its line has newlines, and every page of two or
  more records has at most `screen_lines - 1` newlines, both modulo `2^32`.
* **`keyserverSearch_linesWrap`**: modulo `2^32` is all there is.  A second key with
  `2^32 - 1` user ids has its `lines` wrap to 0, so on a 2-line terminal it is printed right
  after the first key, with `2^32` newlines, and no prompt in between.

The run of `2^32 - 1` user-id lines is never evaluated: `searchRun_uidLines` folds any number of
them into the open record, and the EOF step is taken with the user-id buffer left symbolic.
-/

namespace NeoPG

/-! ## The newlines `print_keyrec` writes -/

/-- The newlines of a text. -/
def newlines (s : CStr) : Nat := s.count '\n'

@[simp] lemma newlines_append (a b : CStr) : newlines (a ++ b) = newlines a + newlines b :=
  List.count_append _ _ _

@[simp] lemma newlines_nil : newlines [] = 0 := rfl

@[simp] lemma newlines_cons (c : Char) (s : CStr) :
    newlines (c :: s) = newlines s + if c = '\n' then 1 else 0 := by
  simp [newlines, List.count_cons]

lemma newlines_eq_zero {s : CStr} (h : '\n' ∉ s) : newlines s = 0 := List.count_eq_zero.mpr h

lemma newline_not_mem_toDigits (n : Nat) : '\n' ∉ Nat.toDigits 10 n := fun h => by
  obtain ⟨D, hD, -, hdig, -⟩ := toDigitsCore_ten (n + 1) n [] (Nat.lt_succ_self n)
  rw [Nat.toDigits, hD, List.append_nil] at h
  exact absurd (hdig _ h) (by decide)

/-- `%d` writes no newline. -/
@[simp] lemma newlines_toString (n : Int) : newlines (toString n).data = 0 := by
  cases n with
  | ofNat m => exact newlines_eq_zero (newline_not_mem_toDigits m)
  | negSucc m =>
    show newlines (['-'] ++ Nat.toDigits 10 (m + 1)) = 0
    simpa using newlines_eq_zero (newline_not_mem_toDigits (m + 1))

lemma hexDigit_ne_newline (n : Nat) : hexDigit n ≠ '\n' := by
  have key : ∀ m, m ≠ 10 → Char.ofNat m ≠ '\n' := fun m hm h => by
    have := congrArg Char.toNat h
    unfold Char.ofNat at this
    split at this
    · exact hm this
    · exact absurd this (by decide)
  unfold hexDigit
  split
  · exact key _ (by omega)
  · exact key _ (by omega)

/-- `print_keyrec`'s collaborators write no newline. -/
structure PrintEnv.NoNewline (env : PrintEnv) : Prop where
  keystr : ∀ kid, '\n' ∉ env.keystr kid
  strtimestamp : ∀ t, '\n' ∉ env.strtimestamp t
  algoName : ∀ a s, env.openpgpPkAlgoName a = some s → '\n' ∉ s

lemma keyrecKeyText_newline {env : PrintEnv} (hp : env.NoNewline) {d : KeydbSearchDesc}
    {key : CStr} (h : keyrecKeyText env d = .ok key) : '\n' ∉ key := by
  cases d <;> simp only [keyrecKeyText, reduceCtorEq, Except.ok.injEq] at h <;> subst h
  · simp [hex08, hexDigit_ne_newline]
  · simpa using hp.keystr _
  · simpa [bin2hex] using fun (x : UInt8) (_ : x ∈ _) =>
      And.intro (hexDigit_ne_newline (x.toNat / 16)).symm (hexDigit_ne_newline (x.toNat % 16)).symm
  · simpa using hp.keystr _

/-- **The newlines of a printed record**: those of its user ids, and the one that ends the
line. -/
lemma printKeyrec_newlines {env : PrintEnv} (hp : env.NoNewline) {n : Int} {k : Keyrec}
    {text : CStr} (h : printKeyrec env n k = .ok text) : newlines text = newlines k.uidbuf + 1 := by
  unfold printKeyrec at h
  rcases hkey : keyrecKeyText env k.desc with e | key <;> rw [hkey] at h
  · cases h
  obtain rfl := Except.ok.inj h
  have hk := newlines_eq_zero (keyrecKeyText_newline hp hkey)
  have ht : ∀ t, newlines (env.strtimestamp t) = 0 := fun t => newlines_eq_zero (hp.strtimestamp t)
  rcases ha : env.openpgpPkAlgoName k.type with _ | s
  · simp [ha, apply_ite newlines, ht, hk]
  · simp [ha, apply_ite newlines, ht, hk, newlines_eq_zero (hp.algoName _ _ ha)]

/-! ## The line count `parse_keyrec` keeps -/

/-- A record's line count is that of the line `print_keyrec` makes of it: one per user id, and
one for the line itself, as a `u32`. -/
def Keyrec.LinesAgree (k : Keyrec) : Prop := k.lines = UInt32.ofNat (newlines k.uidbuf + 1)

/-- The `work` a process can leave behind: clean or freed, with the record it holds open
counted. -/
def WorkSlot.Counted (w : WorkSlot) : Prop :=
  (w.Clean ∨ w = .freed) ∧ ∀ k ∈ w.openRecord, k.LinesAgree

lemma WorkSlot.counted_null : WorkSlot.null.Counted := ⟨.inl trivial, fun _ h => nomatch h⟩

lemma WorkSlot.counted_freed : WorkSlot.freed.Counted := ⟨.inr rfl, fun _ h => nomatch h⟩

lemma newlines_uidLines : ∀ {uids : List CStr}, (∀ u ∈ uids, '\n' ∉ u) →
    newlines (uids.map (· ++ ['\n', '\t'])).flatten = uids.length
  | [], _ => rfl
  | u :: us, h => by
    simp [newlines_eq_zero (h u (.head _)), newlines_uidLines fun v hv => h v (.tail _ hv)]

/-- Adding user ids without newlines keeps the count. -/
lemma withUids_linesAgree {k : Keyrec} (hk : k.LinesAgree) {uids : List CStr}
    (hu : ∀ u ∈ uids, '\n' ∉ u) : (withUids k uids).LinesAgree := by
  unfold Keyrec.LinesAgree at hk ⊢
  simp only [withUids, newlines_append, newlines_uidLines hu, hk]
  rw [show ∀ a b, UInt32.ofNat a + UInt32.ofNat b = UInt32.ofNat (a + b) from fun a b =>
    UInt32.eq_of_toBitVec_eq (BitVec.ofNat_add a b).symm]
  congr 1
  omega

/-- A user id goes through `utf8_to_native`, so it has no newline when that writes none. -/
lemma uidText_newline {env : ParseEnv} (hnative : ∀ s, '\n' ∉ env.utf8ToNative s) (line : CStr) :
    ∀ u ∈ (uidText env line).toList, '\n' ∉ u := by
  intro u hu hn
  unfold uidText at hu
  split at hu
  · split_ifs at hu
    · simp only [Option.toList_some, List.mem_singleton] at hu
      subst hu
      exact hnative _ ((List.takeWhile_sublist _).subset (List.mem_of_mem_take hn))
    · cases hu
  · cases hu

lemma blockRecord_linesAgree {env : ParseEnv} {b : CStr × List CStr} {k : Keyrec}
    (hu : ∀ u ∈ b.2.filterMap (uidText env), '\n' ∉ u) (h : blockRecord env b = some k) :
    k.LinesAgree := by
  unfold blockRecord at h
  split at h
  · obtain ⟨d, -, rfl⟩ := Option.map_eq_some'.mp h
    exact withUids_linesAgree (show (pubRecord _ _ _ _).LinesAgree from rfl) hu
  · cases h

lemma slotOf_counted {o : Option Keyrec} (h : ∀ k ∈ o, k.desc ≠ .none ∧ k.LinesAgree) :
    (slotOf o).Counted :=
  ⟨.inl (slotOf_clean fun k hk => (h k hk).1), fun k hk =>
    (h k (openRecord_slotOf (fun k hk => (h k hk).1) ▸ hk)).2⟩

/-- **`parse_keyrec` counts the lines it buffers**: from a counted `work`, a call that returns
leaves `work` counted and hands back a counted record, when `utf8_to_native` writes no
newline. -/
lemma parseKeyrec_counted {env : ParseEnv} (hnative : ∀ s, '\n' ∉ env.utf8ToNative s)
    {work w' : WorkSlot} (hw : work.Counted) {call : Option CStr} {ret : Option Keyrec}
    (h : parseKeyrec env work call = .ok (w', ret)) : w'.Counted ∧ ∀ k ∈ ret, k.LinesAgree := by
  cases call with
  | none =>
    cases work with
    | null => cases h; exact ⟨hw, fun _ h => nomatch h⟩
    | freed => cases h
    | alloc k =>
      simp only [parseKeyrec, parseKeyrecFlush] at h
      split_ifs at h with hk <;> cases h
      · exact ⟨WorkSlot.counted_freed, fun _ h => nomatch h⟩
      · exact ⟨⟨.inl trivial, fun _ h => nomatch h⟩, fun k' h' =>
          hw.2 k' (by simpa [WorkSlot.openRecord, hk] using h')⟩
  | some line =>
    rcases hw with ⟨hc | rfl, hopen⟩
    · rw [parseKeyrec, parseKeyrecLine_step env hc] at h
      split_ifs at h <;> cases h
      · -- a `pub:` line hands back the open record and opens its own
        exact ⟨slotOf_counted fun k hk => ⟨blockRecord_live hk,
          blockRecord_linesAgree (by simp) hk⟩, hopen⟩
      · -- any other line adds its user id, if any, to the open record
        refine ⟨slotOf_counted fun k hk => ?_, fun _ h => nomatch h⟩
        obtain ⟨k₀, hk₀, rfl⟩ := Option.map_eq_some'.mp hk
        exact ⟨openRecord_live work k₀ hk₀, withUids_linesAgree (hopen k₀ hk₀)
          (uidText_newline hnative line)⟩
    · simp only [parseKeyrec, parseKeyrecLine, WorkSlot.deref] at h
      split_ifs at h <;> cases h
      exact ⟨WorkSlot.counted_freed, fun _ h => nomatch h⟩

/-- A counted record's `lines` is the newline count of its printed line, modulo `2^32`. -/
lemma printKeyrec_lines {pe : PrintEnv} (hp : pe.NoNewline) {n : Int} {k : Keyrec}
    (hk : k.LinesAgree) {text : CStr} (h : printKeyrec pe n k = .ok text) :
    k.lines.toNat = newlines text % 2 ^ 32 := by
  rw [hk, printKeyrec_newlines hp h]
  rfl

/-! ## Pages -/

/-- The lines printed since the last prompt, after one more event: a prompt starts a new page,
a printed record adds its line. -/
def pageStep (page : List CStr) : SearchEvent → List CStr
  | .showPrompt _ _ => []
  | .keyrec _ _ text => page ++ [text]
  | _ => page

/-- The lines printed since the last prompt. -/
def lastPage (log : List SearchEvent) : List CStr := log.foldl pageStep []

/-- The newlines of a page. -/
def pageNewlines (page : List CStr) : Nat := (page.map newlines).sum

/-- At some point of the log, at least two records have been printed since the last prompt,
and their lines hold `n` newlines. -/
def PageAt (log : List SearchEvent) (n : Nat) : Prop :=
  ∃ i, 2 ≤ (lastPage (log.take i)).length ∧ pageNewlines (lastPage (log.take i)) = n

/-- Events none of which prints a record. -/
def NoRecord (new : List SearchEvent) : Prop := ∀ e ∈ new, ∀ a k t, e ≠ .keyrec a k t

lemma lastPage_append (l₁ l₂ : List SearchEvent) :
    lastPage (l₁ ++ l₂) = l₂.foldl pageStep (lastPage l₁) :=
  List.foldl_append _ _ _ _

@[simp] lemma lastPage_keyrec (log : List SearchEvent) (a : Int) (k : Keyrec) (t : CStr) :
    lastPage (log ++ [.keyrec a k t]) = lastPage log ++ [t] := by
  rw [lastPage_append]
  rfl

@[simp] lemma pageNewlines_append (p q : List CStr) :
    pageNewlines (p ++ q) = pageNewlines p + pageNewlines q := by
  simp [pageNewlines]

@[simp] lemma pageNewlines_singleton (t : CStr) : pageNewlines [t] = newlines t := by
  simp [pageNewlines]

/-- Events that print no record leave the page as it was, or empty after a prompt. -/
lemma NoRecord.foldl : ∀ {new : List SearchEvent}, NoRecord new → ∀ p,
    new.foldl pageStep p = p ∨ new.foldl pageStep p = []
  | [], _, p => .inl rfl
  | e :: new, h, p => by
    have hnew : NoRecord new := fun e' he' => h e' (.tail _ he')
    cases e
    case keyrec a k t => exact absurd rfl (h _ (.head _) a k t)
    case showPrompt => exact .inr ((hnew.foldl []).elim id id)
    all_goals exact hnew.foldl p

lemma NoRecord.take {new : List SearchEvent} (h : NoRecord new) (i : Nat) : NoRecord (new.take i) :=
  fun e he => h e (List.mem_of_mem_take he)

lemma noRecord_prompt {rest : List SearchEvent} (h : NoRecord rest) (a b : Int) :
    NoRecord (.showPrompt a b :: rest) :=
  List.forall_mem_cons.mpr ⟨fun _ _ _ => nofun, h⟩

/-- A prompt followed by events that print no record leaves an empty page. -/
lemma lastPage_prompt {log rest : List SearchEvent} (hq : NoRecord rest) (a b : Int) :
    lastPage (log ++ .showPrompt a b :: rest) = [] := by
  rw [lastPage_append, List.foldl_cons]
  exact (hq.foldl []).elim id id

/-- A page of a longer log is a page of the log before, or one ending in the new events. -/
lemma pageAt_append {log new : List SearchEvent} {n : Nat} (h : PageAt (log ++ new) n) :
    PageAt log n ∨ ∃ i, 2 ≤ ((new.take i).foldl pageStep (lastPage log)).length ∧
      pageNewlines ((new.take i).foldl pageStep (lastPage log)) = n := by
  obtain ⟨i, h2, hn⟩ := h
  by_cases hi : i ≤ log.length
  · rw [List.take_append_of_le_length hi] at h2 hn
    exact .inl ⟨i, h2, hn⟩
  · rw [List.take_append_eq_append_take, List.take_of_length_le (by omega), lastPage_append]
      at h2 hn
    exact .inr ⟨_, h2, hn⟩

lemma pageAt_append_noRecord {log new : List SearchEvent} (hq : NoRecord new) {n : Nat}
    (h : PageAt (log ++ new) n) : PageAt log n := by
  rcases pageAt_append h with h | ⟨i, h2, hn⟩
  · exact h
  rcases (hq.take i).foldl (lastPage log) with he | he <;> rw [he] at h2 hn
  · exact ⟨log.length, by rwa [List.take_length], by rwa [List.take_length]⟩
  · cases h2

/-- A printed record makes one new page: the last one with its line. -/
lemma pageAt_append_keyrec {log : List SearchEvent} {a : Int} {k : Keyrec} {t : CStr} {n : Nat}
    (h : PageAt (log ++ [.keyrec a k t]) n) :
    PageAt log n ∨ (1 ≤ (lastPage log).length ∧ n = pageNewlines (lastPage log) + newlines t) := by
  rcases pageAt_append h with h | ⟨i, h2, hn⟩
  · exact .inl h
  cases i with
  | zero => exact .inl ⟨log.length, by rwa [List.take_length], by rwa [List.take_length]⟩
  | succ i =>
    simp only [List.take_succ_cons, List.take_nil, List.foldl_cons, List.foldl_nil, pageStep,
      List.length_append, List.length_singleton] at h2 hn
    exact .inr ⟨by omega, by simp [← hn, pageNewlines]⟩

/-- What an interactive session's log shows: each record printed with as many lines counted
as its line has newlines, and each page of two or more records within `screen_lines - 1`
newlines, both modulo `2^32`. -/
structure PagedLog (screenLines : UInt32) (log : List SearchEvent) : Prop where
  agree : ∀ a k t, SearchEvent.keyrec a k t ∈ log → k.lines.toNat = newlines t % 2 ^ 32
  fits : ∀ n, PageAt log n → n % 2 ^ 32 ≤ screenLines.toNat - 1

lemma PagedLog.nil (S : UInt32) : PagedLog S [] where
  agree _ _ _ h := nomatch h
  fits _ := fun ⟨i, h2, _⟩ => by simp [lastPage] at h2

lemma PagedLog.append_noRecord {S : UInt32} {log new : List SearchEvent} (h : PagedLog S log)
    (hq : NoRecord new) : PagedLog S (log ++ new) where
  agree a k t he := (List.mem_append.mp he).elim (h.agree a k t) fun he => absurd rfl (hq _ he a k t)
  fits n hn := h.fits n (pageAt_append_noRecord hq hn)

lemma PagedLog.append_keyrec {S : UInt32} {log : List SearchEvent} (h : PagedLog S log)
    {a : Int} {k : Keyrec} {t : CStr} (hk : k.lines.toNat = newlines t % 2 ^ 32)
    (hfit : 1 ≤ (lastPage log).length →
      (pageNewlines (lastPage log) + newlines t) % 2 ^ 32 ≤ S.toNat - 1) :
    PagedLog S (log ++ [.keyrec a k t]) where
  agree a' k' t' he := by
    rcases List.mem_append.mp he with he | he
    · exact h.agree a' k' t' he
    · cases List.mem_singleton.mp he
      exact hk
  fits n hn := by
    rcases pageAt_append_keyrec hn with hn | ⟨h1, rfl⟩
    · exact h.fits n hn
    · exact hfit h1

/-- `numlines` counts the newlines of the last page, modulo `2^32`. -/
def SearchState.CountsPage (st : SearchState) : Prop :=
  st.parm.numlines.toNat = pageNewlines (lastPage st.session.log) % 2 ^ 32

/-- The paging test: a sum that is not above `screen_lines - 1` as a `u32` is at most
`screen_lines - 1` modulo `2^32`. -/
lemma screen_fits {a b S : UInt32} (hS : 1 ≤ S.toNat) (h : ¬a + b > S - 1) :
    (a.toNat + b.toNat) % 2 ^ 32 ≤ S.toNat - 1 := by
  have h' : (a + b).toNat ≤ (S - 1).toNat := UInt32.not_lt.mp h
  rwa [UInt32.toNat_sub_of_le _ _ hS] at h'

/-! ## Saving a record -/

section Steps

variable {S : Type} {opts : SearchOpts} {env : SearchEnv S} {st st' : SearchState}

lemma PromptEvent.noRecord {desc : Option DescArray} {numdesc : Int} {new : List SearchEvent}
    (h : ∀ e ∈ new, PromptEvent desc numdesc e) : NoRecord new :=
  fun e he => (h e he).ne_keyrec

variable (opts env) in
/-- `show_prompt` logs `showPrompt` first, and prints no record. -/
lemma showPrompt_log {desc : Option DescArray} {numdesc : Int}
    (hslots : SlotsKeyId desc numdesc) (count : Int) (search : CStr) (s : Session) :
    ∃ s' err rest, showPrompt opts env desc numdesc count search s = .ok (s', err) ∧
      s'.log = s.log ++ .showPrompt numdesc count :: rest ∧ NoRecord rest := by
  unfold showPrompt
  dsimp only
  split_ifs
  · obtain ⟨s', err, h, ⟨new, hlog, hnew⟩, -⟩ := promptLoop_spec opts env hslots _
      { (s.emit (.showPrompt numdesc count)).emit
          (.keysRange (s.emit (.showPrompt numdesc count)).promptFrom numdesc count search) with
        promptFrom := numdesc + 1 }
    exact ⟨s', err, .keysRange s.promptFrom numdesc count search :: new, h, by simp [hlog],
      PromptEvent.noRecord (List.forall_mem_cons.mpr ⟨rfl, hnew⟩)⟩
  · obtain ⟨s', err, h, ⟨new, hlog, hnew⟩, -⟩ := promptLoop_spec opts env hslots _
      (s.emit (.showPrompt numdesc count))
    exact ⟨s', err, new, h, by simp [hlog], PromptEvent.noRecord hnew⟩

/-- **Showing a record keeps the pages on the screen.**  A record that does not fit after
`numlines` lines is printed after a prompt, on a new page; one that fits joins the page, whose
newlines the test bounds modulo `2^32`.  Either way the record's count is added to `numlines`
next, which then counts the page again. -/
lemma showKeyrec_page (hslots : SlotsKeyId st.parm.desc st.parm.nkeys)
    (hscreen : 1 ≤ opts.screenLines.toNat) (hprint : env.print.NoNewline) {k : Keyrec}
    (hk : k.LinesAgree) (hlog : PagedLog opts.screenLines st.session.log) (hnum : st.CountsPage)
    {err : Option GpgErr} (h : showKeyrec opts env st k = .ok (st', err)) :
    PagedLog opts.screenLines st'.session.log ∧ (err = none → (countKeyrec st' k).CountsPage) := by
  unfold showKeyrec at h
  dsimp only at h
  by_cases hfull : st.parm.numlines + k.lines > opts.screenLines - 1
  · -- the screen is full: the prompt, then the record opens a new page
    obtain ⟨s', e, rest, hs, hslog, hrest⟩ := showPrompt_log opts env hslots
      (if st.parm.validcount then st.parm.count else 0) st.parm.searchstrDisp st.session
    have hpage : lastPage s'.log = [] := hslog ▸ lastPage_prompt hrest _ _
    have hlog' : PagedLog opts.screenLines s'.log :=
      hslog ▸ hlog.append_noRecord (noRecord_prompt hrest _ _)
    rw [if_pos hfull, hs] at h
    cases e with
    | some e =>
      cases h
      exact ⟨hlog', nofun⟩
    | none =>
      rcases hpk : printKeyrec env.print (st.parm.nkeys + 1) k with f | text <;>
        simp only [Except.map, andThenOk_none, hpk] at h <;> cases h
      have hlines := printKeyrec_lines hprint hk hpk
      refine ⟨hlog'.append_keyrec hlines (by simp [hpage]), fun _ => ?_⟩
      simp [SearchState.CountsPage, countKeyrec, hpage, hlines]
  · -- room on the screen: the record joins the page
    rw [if_neg hfull] at h
    rcases hpk : printKeyrec env.print (st.parm.nkeys + 1) k with f | text <;>
      simp only [Except.map, hpk] at h <;> cases h
    have hlines := printKeyrec_lines hprint hk hpk
    have hsum : (st.parm.numlines.toNat + k.lines.toNat) % 2 ^ 32 =
        (pageNewlines (lastPage st.session.log) + newlines text) % 2 ^ 32 := by
      rw [hnum, hlines]
      omega
    refine ⟨hlog.append_keyrec hlines fun _ => hsum ▸ screen_fits hscreen hfull, fun _ => ?_⟩
    simpa [SearchState.CountsPage, countKeyrec] using hsum

/-- Allocations and stores leave the page as it was. -/
lemma foldl_pageStep_quiet : ∀ {new : List SearchEvent}, (∀ e ∈ new, e.isAlloc ∨ e.isStore) →
    ∀ p, new.foldl pageStep p = p
  | [], _, _ => rfl
  | e :: new, h, p => by
    have he : pageStep p e = p := by
      rcases h e (.head _) with h' | h' <;> cases e <;> first | rfl | cases h'
    rw [List.foldl_cons, he, foldl_pageStep_quiet (fun e he => h e (.tail _ he))]

lemma noRecord_quiet {new : List SearchEvent} (h : ∀ e ∈ new, e.isAlloc ∨ e.isStore) :
    NoRecord new := fun e he a k t hk => by
  rcases h e he with h' | h' <;> rw [hk] at h' <;> cases h'

/-- **Saving a counted record** keeps the log paged, and `numlines` counting the page unless
the save returned an error. -/
lemma saveKeyrec_page (hinv : SearchInv opts st) (hcol : opts.withColons = false)
    (hscreen : 1 ≤ opts.screenLines.toNat) (hprint : env.print.NoNewline) {k : Keyrec}
    (hkey : k.desc.isKeyId) (hk : k.LinesAgree) (hlog : PagedLog opts.screenLines st.session.log)
    (hnum : st.CountsPage) {err : Option GpgErr} (h : saveKeyrec opts env st k = .ok (st', err)) :
    PagedLog opts.screenLines st'.session.log ∧ (err = none → st'.CountsPage) := by
  rcases saveKeyrec_cases h with ⟨ha, he⟩ | ⟨st₁, st₂, st₃, e, ha, hs, hshow, hend⟩
  · -- the allocation failed
    obtain ⟨-, ⟨new, hs₁, hnew⟩, -⟩ := allocDesc_spec hinv ha
    refine ⟨?_, fun h0 => by simp [h0] at he⟩
    rw [hs₁]
    exact hlog.append_noRecord (noRecord_quiet fun e he => .inl (hnew e he))
  · obtain ⟨a, hp₂, -, -, -, -, -, new, hs₂, hnew⟩ := allocStore_spec hinv ha hs
    have hquiet : ∀ e ∈ new ++ [.storeDesc st.parm.nkeys a.elems k.desc], e.isAlloc ∨ e.isStore :=
      fun e he => (List.mem_append.mp he).elim (fun he => .inl (hnew e he))
        fun he => .inr (by rw [List.mem_singleton.mp he]; rfl)
    have hlog₂ : st₂.session.log =
        st.session.log ++ (new ++ [.storeDesc st.parm.nkeys a.elems k.desc]) := by
      rw [hs₂, List.append_assoc]
    have hpaged₂ : PagedLog opts.screenLines st₂.session.log :=
      hlog₂ ▸ hlog.append_noRecord (noRecord_quiet hquiet)
    have hnum₂ : st₂.CountsPage := by
      unfold SearchState.CountsPage
      rw [hlog₂, lastPage_append, foldl_pageStep_quiet hquiet, hp₂]
      exact hnum
    rw [hcol, if_neg Bool.false_ne_true] at hshow
    obtain ⟨hpaged₃, hnum₃⟩ := showKeyrec_page (storeRecord_inv hinv hkey ha hs).slotsKeyId
      hscreen hprint hk hpaged₂ hnum₂ hshow
    rcases hend with ⟨he, rfl, rfl⟩ | ⟨rfl, rfl, rfl⟩
    · exact ⟨hpaged₃, fun h0 => by simp [h0] at he⟩
    · exact ⟨hpaged₃, fun _ => hnum₃ rfl⟩

/-- The end of the stream with nothing to flush only prompts. -/
lemma eofNoRecord_page (hinv : SearchInv opts st) (hlog : PagedLog opts.screenLines st.session.log)
    {err : Option GpgErr} (h : eofNoRecord opts env st = .ok (st', err)) :
    PagedLog opts.screenLines st'.session.log ∧ st'.parm.eofSeen = st.parm.eofSeen := by
  obtain ⟨hp, pnew, hlog', hpe⟩ := eofNoRecord_ok hinv h
  exact ⟨hlog' ▸ hlog.append_noRecord (PromptEvent.noRecord hpe), by rw [hp]⟩

end Steps

/-! ## One call of the handler, and a run -/

/-- What holds between two calls of the handler in an interactive session: the session
invariant, a counted `work`, a paged log, and, until EOF, `numlines` counting the last page.
The prompt at EOF does not reset `numlines`, but nothing is printed after it. -/
structure PageInv (opts : SearchOpts) (work : WorkSlot) (st : SearchState) : Prop where
  session : SessionInv opts work st
  counted : work.Counted
  log : PagedLog opts.screenLines st.session.log
  numlines : st.parm.eofSeen = false → st.CountsPage

section Handler

variable {S : Type} {opts : SearchOpts} {env : SearchEnv S} {work w' : WorkSlot}
  {st st' : SearchState}

lemma infoLine_numlines (longBits : Nat) (st : SearchState) (line : CStr) :
    (infoLine longBits st line).1.parm.numlines = st.parm.numlines := by
  unfold infoLine
  dsimp only
  split_ifs
  · rfl
  · split
    · split_ifs <;> rfl
    · rfl

lemma SessionInv.step (hi : SessionInv opts work st) {call : HandlerCall}
    (h : searchLineHandler opts env work st call = .ok (w', st', none)) :
    SessionInv opts w' st' := by
  have hok : StepOk opts (searchLineHandler opts env work st call) :=
    searchLineHandler_ok hi.wf hi.inv call
  rw [h] at hok
  exact ⟨hok.1, hok.2.2 rfl, searchLineHandler_eofSeen hi.wf hi.inv hi.eof call h⟩

/-- Every call leaves `work` counted, whatever the options. -/
lemma searchLineHandler_counted (hnative : ∀ s, '\n' ∉ env.parse.utf8ToNative s)
    (hw : work.Counted) (call : HandlerCall) {err : Option GpgErr}
    (h : searchLineHandler opts env work st call = .ok (w', st', err)) : w'.Counted := by
  rcases searchLineHandler_cases h with ⟨-, rfl, -⟩ | ⟨-, -, h⟩ |
    ⟨line, st₁, -, -, -, -, ⟨-, rfl, -⟩ | ⟨-, h⟩⟩
  · exact hw
  · rcases againAtEof_cases h with ⟨-, hf, -⟩ | ⟨-, -, -, -, -, rfl, -⟩
    · exact (parseKeyrec_counted hnative hw
        (show parseKeyrec env.parse work none = _ from hf)).1
    · exact WorkSlot.counted_null
  · exact hw
  · obtain ⟨r, hp, -⟩ := againLine_cases h
    exact (parseKeyrec_counted hnative hw hp).1

section Paged

variable (hcol : opts.withColons = false) (hscreen : 1 ≤ opts.screenLines.toNat)
  (hnative : ∀ s, '\n' ∉ env.parse.utf8ToNative s) (hprint : env.print.NoNewline)
include hcol hscreen hnative hprint

omit hnative in
/-- The EOF branch: the record left open, if any, is saved, and the last prompt shown. -/
lemma againAtEof_page (hi : PageInv opts work st) {err : Option GpgErr}
    (h : againAtEof opts env work st = .ok (w', st', err)) :
    PagedLog opts.screenLines st'.session.log ∧ st'.parm.eofSeen = true := by
  have hinv : SearchInv opts st.setEofSeen :=
    hi.session.inv.extend rfl rfl rfl id (List.append_nil _).symm (by simp)
  rcases againAtEof_cases h with ⟨-, -, he⟩ | ⟨k, st₁, e, rfl, hpk, rfl, hs, hend⟩
  · exact eofNoRecord_page hinv hi.log he
  have hlive : k.desc ≠ .none := fun h0 => by simp [WorkSlot.pending, h0] at hpk
  have hkey : k.desc.isKeyId := hi.session.wf _ (by rw [hpk]; exact List.mem_singleton_self _)
  have hagree : k.LinesAgree := hi.counted.2 k (by simp [WorkSlot.openRecord, hlive])
  have hf : st.parm.eofSeen = false :=
    Bool.eq_false_iff.mpr fun hc => by simp [hi.session.eof hc] at hpk
  obtain ⟨hlog₁, -⟩ := saveKeyrec_page hinv hcol hscreen hprint hkey hagree hi.log
    (hi.numlines hf) hs
  rcases hend with ⟨-, rfl, -⟩ | ⟨rfl, he⟩
  · exact ⟨hlog₁, congrArg Prod.fst (saveKeyrec_endFlags hinv hkey hs)⟩
  · have hinv₁ : SearchInv opts st₁.setEofSeen :=
      ((saveKeyrec_inv hinv hkey hs).2 rfl).extend rfl rfl rfl id (List.append_nil _).symm
        (by simp)
    exact eofNoRecord_page hinv₁ hlog₁ he

/-- **One call of the handler keeps the pages**: any call that returns leaves a paged log, and
the whole invariant when it returned no error. -/
lemma searchLineHandler_page (hi : PageInv opts work st) (call : HandlerCall)
    {err : Option GpgErr} (h : searchLineHandler opts env work st call = .ok (w', st', err)) :
    PagedLog opts.screenLines st'.session.log ∧ (err = none → PageInv opts w' st') := by
  suffices hlog : PagedLog opts.screenLines st'.session.log ∧
      (err = none → st'.parm.eofSeen = false → st'.CountsPage) by
    refine ⟨hlog.1, fun he => ?_⟩
    subst he
    exact ⟨hi.session.step h, searchLineHandler_counted hnative hi.counted call h, hlog.1,
      hlog.2 rfl⟩
  rcases searchLineHandler_cases h with ⟨-, rfl, rfl, -⟩ | ⟨-, -, h⟩ |
    ⟨line, st₁, -, hf, -, hst, hcase⟩
  · exact ⟨hi.log, fun _ => hi.numlines⟩
  · obtain ⟨hlog, heof⟩ := againAtEof_page hcol hscreen hprint hi h
    exact ⟨hlog, fun _ hf => absurd (heof.symm.trans hf) (by decide)⟩
  rw [hcol, if_neg Bool.false_ne_true] at hst
  subst hst
  rcases hcase with ⟨-, -, hres⟩ | ⟨-, h⟩
  · -- the `info:` header
    rw [show st' = _ from congrArg Prod.fst hres]
    have hsess := (infoLine_parm env.parse.longBits st₁ line).1
    refine ⟨hsess ▸ hi.log, fun _ _ => ?_⟩
    unfold SearchState.CountsPage
    rw [infoLine_numlines, hsess]
    exact hi.numlines hf
  · -- a data line, and the record it completes, if any
    obtain ⟨r, hp, ⟨-, rfl, -⟩ | ⟨k, rfl, hsv⟩⟩ := againLine_cases h
    · exact ⟨hi.log, fun _ _ => hi.numlines hf⟩
    · obtain ⟨hlog, hnum⟩ := saveKeyrec_page hi.session.inv hcol hscreen hprint
        ((parseKeyrec_isKeyId hi.session.wf hp).2 k rfl)
        ((parseKeyrec_counted hnative hi.counted hp).2 k rfl) hi.log (hi.numlines hf) hsv
      exact ⟨hlog, fun he _ => hnum he⟩

/-- **A run keeps the pages**, up to the error that ends it. -/
lemma searchRun_page : ∀ (calls : List HandlerCall) {work : WorkSlot} {st : SearchState},
    PageInv opts work st → ∀ {w' st' err}, searchRun opts env work st calls = .ok (w', st', err) →
      PagedLog opts.screenLines st'.session.log
  | [], _, _, hi, _, _, _, h => by
    cases h
    exact hi.log
  | c :: cs, work, st, hi, _, _, _, h => by
    simp only [searchRun] at h
    rcases hc : searchLineHandler opts env work st c with f | ⟨w₁, st₁, _ | e⟩ <;> rw [hc] at h
    · cases h
    · exact searchRun_page cs ((searchLineHandler_page hcol hscreen hnative hprint hi c hc).2 rfl) h
    · cases h
      exact (searchLineHandler_page hcol hscreen hnative hprint hi c hc).1

end Paged

end Handler

/-! ## The process -/

lemma searchRun_counted {S : Type} {opts : SearchOpts} {env : SearchEnv S}
    (hnative : ∀ s, '\n' ∉ env.parse.utf8ToNative s) :
    ∀ (calls : List HandlerCall) {work : WorkSlot} {st : SearchState}, work.Counted →
      ∀ {w' st' err}, searchRun opts env work st calls = .ok (w', st', err) → w'.Counted
  | [], _, _, hw, _, _, _, h => by
    cases h
    exact hw
  | c :: cs, work, st, hw, _, _, _, h => by
    simp only [searchRun] at h
    rcases hc : searchLineHandler opts env work st c with f | ⟨w₁, st₁, _ | e⟩ <;> rw [hc] at h
    · cases h
    · exact searchRun_counted hnative cs (searchLineHandler_counted hnative hw c hc) h
    · cases h
      exact searchLineHandler_counted hnative hw c hc

/-- The statics a process can be in while its `utf8_to_native` writes no newline: at start, and
after any search from statics it can be in, whatever its options, tokens, line stream and
answers. -/
inductive EscapedReach : Statics → Prop
  | init : EscapedReach Statics.init
  | search {S : Type} (opts : SearchOpts) (env : SearchEnv S) {statics statics' : Statics}
      (tokens : List CStr) (ks : KsSearch) (answers : List CStr) {r : SearchResult} :
      (∀ s, '\n' ∉ env.parse.utf8ToNative s) → EscapedReach statics →
      keyserverSearch opts env statics tokens ks answers = .ok (statics', r) →
      EscapedReach statics'

lemma EscapedReach.staticsReach {statics : Statics} (h : EscapedReach statics) :
    StaticsReach statics := by
  induction h with
  | init => exact .init
  | search opts env tokens ks answers _ _ hs ih => exact .search opts env tokens ks answers ih hs

/-- A record a search leaves open for the next one is counted. -/
lemma EscapedReach.counted {statics : Statics} (h : EscapedReach statics) :
    statics.work.Counted := by
  induction h with
  | init => exact WorkSlot.counted_null
  | search opts env tokens ks answers hnative _ hs ih =>
    rcases keyserverSearch_work hs with rfl | ⟨st, err, hr⟩
    · exact ih
    · exact searchRun_counted hnative ks.calls ih hr

/-- **The records between two prompts fit on the screen, modulo `2^32`.**  In an interactive
search (no `--with-colons`) on a terminal of `screen_lines >= 1`, with a `utf8_to_native` and
`print_keyrec` collaborators that write no newline, from any statics the process can be in, and
for any tokens, stream of handler calls and answers: every record printed has as many lines
counted as its printed line has newlines, and at every point where at least two records have
been printed since the last prompt (or the start), their lines hold at most `screen_lines - 1`
newlines; both counts taken modulo `2^32`, the range of the `u32` counters. -/
theorem keyserverSearch_pages {S : Type} (opts : SearchOpts) (env : SearchEnv S)
    (hcol : opts.withColons = false) (hscreen : 1 ≤ opts.screenLines.toNat)
    (hnative : ∀ s, '\n' ∉ env.parse.utf8ToNative s) (hprint : env.print.NoNewline)
    {statics statics' : Statics} (hreach : EscapedReach statics) (tokens : List CStr)
    (ks : KsSearch) (answers : List CStr) {r : SearchResult}
    (h : keyserverSearch opts env statics tokens ks answers = .ok (statics', r)) :
    (∀ a k t, SearchEvent.keyrec a k t ∈ r.log → k.lines.toNat = newlines t % 2 ^ 32) ∧
      ∀ n, PageAt r.log n → n % 2 ^ 32 ≤ opts.screenLines.toNat - 1 := by
  suffices hlog : PagedLog opts.screenLines r.log from ⟨hlog.agree, hlog.fits⟩
  unfold keyserverSearch at h
  split_ifs at h
  · cases h
    exact PagedLog.nil _
  · dsimp only at h
    rcases hr : searchRun opts env statics.work (.start (env.parse.utf8ToNative
      ([' '].intercalate tokens)) statics.promptFrom answers) ks.calls with f | ⟨w, st, err⟩ <;>
      rw [hr] at h <;> cases h
    have hstart : PageInv opts statics.work (.start (env.parse.utf8ToNative
        ([' '].intercalate tokens)) statics.promptFrom answers) :=
      ⟨⟨hreach.staticsReach.work_wf, searchInv_start _ _ answers, nofun⟩, hreach.counted,
        PagedLog.nil _, fun _ => rfl⟩
    exact searchRun_page hcol hscreen hnative hprint ks.calls hstart hr

/-! ## A terminal that escapes newlines -/

/-- `demoEnv` with a `utf8_to_native` that escapes a newline as a backslash and `n`. -/
def escapedEnv : SearchEnv Unit :=
  { demoEnv with parse := { demoEnv.parse with
      utf8ToNative := fun s => s.flatMap fun c => if c = '\n' then ['\\', 'n'] else [c] } }

lemma escapedEnv_native : ∀ s, '\n' ∉ escapedEnv.parse.utf8ToNative s := by
  intro s h
  simp only [escapedEnv, demoEnv, List.mem_flatMap] at h
  obtain ⟨c, -, hc⟩ := h
  split_ifs at hc with hn
  · simp at hc
  · exact hn (List.mem_singleton.mp hc).symm

lemma demoEnv_noNewline : demoEnv.print.NoNewline :=
  ⟨fun _ => show '\n' ∉ "KEY".toList by decide, fun _ => show '\n' ∉ "DATE".toList by decide,
    fun _ _ h => nomatch h⟩

/-- Two keys on a 2-line terminal, from process start. -/
theorem keyserverSearch_pages_twoKeys :
    ∃ statics' r, keyserverSearch shortTerminal escapedEnv Statics.init ["x".toList]
        ⟨streamCalls ["pub:1111111111111111".toList, "pub:2222222222222222".toList], none⟩ [] =
        .ok (statics', r) ∧
      (∀ a k t, SearchEvent.keyrec a k t ∈ r.log → k.lines.toNat = newlines t % 2 ^ 32) ∧
      ∀ n, PageAt r.log n → n % 2 ^ 32 ≤ shortTerminal.screenLines.toNat - 1 :=
  have ⟨statics', r, h⟩ : ∃ statics' r, keyserverSearch shortTerminal escapedEnv Statics.init
      ["x".toList] ⟨streamCalls ["pub:1111111111111111".toList, "pub:2222222222222222".toList],
        none⟩ [] = .ok (statics', r) := ⟨_, _, rfl⟩
  ⟨statics', r, h, keyserverSearch_pages shortTerminal escapedEnv rfl (by decide) escapedEnv_native
    demoEnv_noNewline .init _ _ _ h⟩

/-! ## When the counters wrap -/

section Uids

variable {S : Type} {opts : SearchOpts} {env : SearchEnv S}

lemma searchRun_cons_ok {w w' : WorkSlot} {st st' : SearchState} {c : HandlerCall}
    (h : searchLineHandler opts env w st c = .ok (w', st', none)) (cs : List HandlerCall) :
    searchRun opts env w st (c :: cs) = searchRun opts env w' st' cs := by
  simp [searchRun, h]

/-- A line that is neither a `pub:` line nor a header adds its user id to the open record. -/
lemma searchLineHandler_uidLine (hcol : opts.withColons = false) {k : Keyrec}
    (hk : k.desc ≠ .none) {st : SearchState} (heof : st.parm.eofSeen = false) {line : CStr}
    (hpub : isPubLine line = false) (hinfo : asciiStrncasecmpEq "info:".toList line 5 = false) :
    searchLineHandler opts env (.alloc k) st ⟨0, some line⟩ =
      .ok (.alloc (withUids k (uidText env.parse line).toList), st, none) := by
  have hc : (WorkSlot.alloc k).Clean := fun h => absurd h hk
  simp only [searchLineHandler, ne_eq, not_true_eq_false, if_false, heof, Bool.false_eq_true,
    hcol, hinfo, and_false, againLine, parseKeyrec, parseKeyrecLine_step env.parse hc, hpub]
  simp [WorkSlot.openRecord, hk, slotOf]

/-- **Any number of user-id lines** fold into the open record, without touching the state. -/
lemma searchRun_uidLines (hcol : opts.withColons = false) {st : SearchState}
    (heof : st.parm.eofSeen = false) {line u : CStr} (hpub : isPubLine line = false)
    (hinfo : asciiStrncasecmpEq "info:".toList line 5 = false) (hu : uidText env.parse line = some u)
    (rest : List HandlerCall) : ∀ (n : Nat) {k : Keyrec}, k.desc ≠ .none →
    searchRun opts env (.alloc k) st (List.replicate n ⟨0, some line⟩ ++ rest) =
      searchRun opts env (.alloc (withUids k (List.replicate n u))) st rest
  | 0, _, _ => by simp
  | n + 1, k, hk => by
    rw [List.replicate_succ, List.cons_append,
      searchRun_cons_ok (searchLineHandler_uidLine hcol hk heof hpub hinfo), hu,
      searchRun_uidLines hcol heof hpub hinfo hu rest n (by simpa using hk), withUids_withUids]
    rfl

/-- The EOF call on an open record: it is saved, and the last prompt shown. -/
lemma searchRun_flushRecord {k : Keyrec} (hk : k.desc ≠ .none) {st st₁ st' : SearchState}
    {err : Option GpgErr} (hs : saveKeyrec opts env st.setEofSeen k = .ok (st₁, none))
    (he : eofNoRecord opts env st₁.setEofSeen = .ok (st', err)) :
    searchRun opts env (.alloc k) st [⟨0, none⟩] = .ok (.null, st', err) := by
  have hrun : searchLineHandler opts env (.alloc k) st ⟨0, none⟩ = .ok (.null, st', err) := by
    simp only [searchLineHandler, ne_eq, not_true_eq_false, if_false, ite_self]
    rw [againAtEof]
    split
    · next hp => simp [parseKeyrec, parseKeyrecFlush, hk] at hp
    · next hp => simp [parseKeyrec, parseKeyrecFlush, hk] at hp
    · next hp =>
      simp only [parseKeyrec, parseKeyrecFlush, hk, if_false, Except.ok.injEq, Prod.mk.injEq,
        Option.some.injEq] at hp
      obtain ⟨rfl, rfl⟩ := hp
      rw [hs]
      dsimp only
      rw [againAtEof]
      dsimp only [parseKeyrec, parseKeyrecFlush]
      rw [he]
      rfl
  cases err <;> simp [searchRun, hrun]

end Uids

/-- Two keys, the second with `2^32 - 1` user ids. -/
def wrapLines : List CStr :=
  "pub:1111111111111111".toList :: "pub:2222222222222222".toList ::
    List.replicate (2 ^ 32 - 1) "uid:a".toList

/-- On a 2-line terminal, two keys, the second with `n` user ids where `1 + n` wraps to 0: the
second record is printed right after the first, with `n + 1` newlines, and its `lines` is 0. -/
lemma keyserverSearch_uidCount (n : Nat) (hn : 1 + UInt32.ofNat n = 0) :
    ∃ statics' r, keyserverSearch shortTerminal escapedEnv Statics.init ["x".toList]
        ⟨streamCalls ("pub:1111111111111111".toList :: "pub:2222222222222222".toList ::
          List.replicate n "uid:a".toList), none⟩ [] = .ok (statics', r) ∧
      PageAt r.log (n + 2) ∧
      ∃ a k t, SearchEvent.keyrec a k t ∈ r.log ∧ k.lines = 0 ∧ newlines t = n + 1 := by
  -- the two `pub:` lines, evaluated; the end of the stream, with the user ids left symbolic
  obtain ⟨st₂, h₁, h₂, heof, hpage, hend⟩ : ∃ st₂,
      searchLineHandler shortTerminal escapedEnv .null (.start "x".toList 1 [])
        ⟨0, some "pub:1111111111111111".toList⟩ =
          .ok (.alloc (pubRecord 64 1000 (.longKid 0x11111111 0x11111111) []),
            .start "x".toList 1 [], none) ∧
      searchLineHandler shortTerminal escapedEnv
        (.alloc (pubRecord 64 1000 (.longKid 0x11111111 0x11111111) [])) (.start "x".toList 1 [])
        ⟨0, some "pub:2222222222222222".toList⟩ =
          .ok (.alloc (pubRecord 64 1000 (.longKid 0x22222222 0x22222222) []), st₂, none) ∧
      st₂.parm.eofSeen = false ∧ lastPage st₂.session.log = ["(1)\t  key KEY\n".toList] ∧
      ∀ U, ∃ st₃ st' t rest,
        saveKeyrec shortTerminal escapedEnv st₂.setEofSeen
          { pubRecord 64 1000 (.longKid 0x22222222 0x22222222) [] with uidbuf := U, lines := 0 } =
          .ok (st₃, none) ∧
        eofNoRecord shortTerminal escapedEnv st₃.setEofSeen = .ok (st', some .canceled) ∧
        printKeyrec demoEnv.print 2
          { pubRecord 64 1000 (.longKid 0x22222222 0x22222222) [] with uidbuf := U, lines := 0 } =
          .ok t ∧
        st'.session.log = st₂.session.log ++ [.storeDesc 1 10 (.longKid 0x22222222 0x22222222),
          .keyrec 2 { pubRecord 64 1000 (.longKid 0x22222222 0x22222222) [] with
            uidbuf := U, lines := 0 } t] ++ rest :=
    ⟨_, rfl, rfl, rfl, by decide, fun U => ⟨_, _, _, _, rfl, rfl, rfl, rfl⟩⟩
  -- the user ids: `lines` wraps to 0
  have hK : withUids (pubRecord 64 1000 (.longKid 0x22222222 0x22222222) [])
      (List.replicate n "a".toList) =
      { pubRecord 64 1000 (.longKid 0x22222222 0x22222222) [] with
        uidbuf := ((List.replicate n "a".toList).map (· ++ ['\n', '\t'])).flatten
        lines := 0 } := by
    have hbuf : (pubRecord 64 1000 (.longKid 0x22222222 0x22222222) []).uidbuf = [] := rfl
    have hlines : (pubRecord 64 1000 (.longKid 0x22222222 0x22222222) []).lines = 1 := rfl
    unfold withUids
    rw [List.length_replicate, hbuf, hlines, hn, List.nil_append]
  obtain ⟨st₃, st', t, rest, hsave, heofStep, ht, hlog⟩ :=
    hend ((List.replicate n "a".toList).map (· ++ ['\n', '\t'])).flatten
  have hcalls : streamCalls ("pub:1111111111111111".toList :: "pub:2222222222222222".toList ::
      List.replicate n "uid:a".toList) = ⟨0, some "pub:1111111111111111".toList⟩ ::
      ⟨0, some "pub:2222222222222222".toList⟩ ::
      (List.replicate n ⟨0, some "uid:a".toList⟩ ++ [⟨0, none⟩]) := by
    simp only [streamCalls, List.map_cons, List.map_replicate, List.cons_append]
  have hrun : searchRun shortTerminal escapedEnv .null (.start "x".toList 1 [])
      (streamCalls ("pub:1111111111111111".toList :: "pub:2222222222222222".toList ::
        List.replicate n "uid:a".toList)) = .ok (.null, st', some .canceled) := by
    rw [hcalls, searchRun_cons_ok h₁, searchRun_cons_ok h₂,
      searchRun_uidLines rfl heof (show isPubLine "uid:a".toList = false from rfl)
        (show asciiStrncasecmpEq "info:".toList "uid:a".toList 5 = false from rfl)
        (show uidText escapedEnv.parse "uid:a".toList = some "a".toList from rfl) _ n
        (show (pubRecord 64 1000 (.longKid 0x22222222 0x22222222) []).desc ≠ .none from nofun), hK]
    exact searchRun_flushRecord (by simp [pubRecord]) hsave heofStep
  have hsearch : keyserverSearch shortTerminal escapedEnv Statics.init ["x".toList]
      ⟨streamCalls ("pub:1111111111111111".toList :: "pub:2222222222222222".toList ::
        List.replicate n "uid:a".toList), none⟩ [] =
      .ok (⟨.null, st'.session.promptFrom⟩, ⟨some .canceled, st'.parm.notFound, st'.session.log⟩) := by
    unfold keyserverSearch
    rw [if_neg (List.cons_ne_nil _ _)]
    show Except.map _ (searchRun shortTerminal escapedEnv .null (.start "x".toList 1 []) _) = _
    rw [hrun]
    rfl
  -- the second record's line: its user ids' newlines and one more
  have hnl : newlines t = n + 1 := by
    rw [printKeyrec_newlines demoEnv_noNewline ht]
    show newlines ((List.replicate n "a".toList).map (· ++ ['\n', '\t'])).flatten + 1 = n + 1
    rw [newlines_uidLines fun u hu => by rw [List.eq_of_mem_replicate hu]; decide,
      List.length_replicate]
  have hlog' : st'.session.log.take (st₂.session.log.length + 2) = st₂.session.log ++
      [.storeDesc 1 10 (.longKid 0x22222222 0x22222222), .keyrec 2
        { pubRecord 64 1000 (.longKid 0x22222222 0x22222222) [] with
          uidbuf := ((List.replicate n "a".toList).map (· ++ ['\n', '\t'])).flatten,
          lines := 0 } t] := by
    rw [hlog, List.take_append_of_le_length (by simp), List.take_of_length_le (by simp)]
  refine ⟨_, _, hsearch, ⟨st₂.session.log.length + 2, ?_, ?_⟩, 2,
    { pubRecord 64 1000 (.longKid 0x22222222 0x22222222) [] with
      uidbuf := ((List.replicate n "a".toList).map (· ++ ['\n', '\t'])).flatten, lines := 0 },
    t, ?_, rfl, hnl⟩
  · rw [hlog']
    simp [lastPage_append, hpage, pageStep]
  · rw [hlog']
    simp only [lastPage_append, hpage, List.foldl_cons, List.foldl_nil, pageStep, pageNewlines,
      List.map_cons, List.map_nil, List.sum_cons, List.sum_nil, List.nil_append,
      List.singleton_append, hnl]
    have h₁ : newlines "(1)\t  key KEY\n".toList = 1 := by decide
    omega
  · rw [hlog]
    simp

/-- **The counters wrap.**  On a 2-line terminal, with a `utf8_to_native` that escapes
newlines, a search from process start whose keyserver sends two keys, the second with
`2^32 - 1` user ids: the second record's `lines` wraps to 0, so `1 + 0 > 1` fails and it is
printed after the first with no prompt between them.  Its line has `2^32` newlines, and the two
records, printed between the start and the first prompt, hold `2^32 + 1` newlines where
`screen_lines - 1 = 1`. -/
theorem keyserverSearch_linesWrap :
    ∃ statics' r, keyserverSearch shortTerminal escapedEnv Statics.init ["x".toList]
        ⟨streamCalls wrapLines, none⟩ [] = .ok (statics', r) ∧
      PageAt r.log (2 ^ 32 + 1) ∧
      ∃ a k t, SearchEvent.keyrec a k t ∈ r.log ∧ k.lines = 0 ∧ newlines t = 2 ^ 32 :=
  keyserverSearch_uidCount (2 ^ 32 - 1) (by decide)

end NeoPG
