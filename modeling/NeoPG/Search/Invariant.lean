import NeoPG.Search.Handler

/-!
# What holds between two calls of the search handler

The descriptor array `parm->desc` is safe because of bookkeeping spread over three places: the
`info:` header sets `count` only while no line has been stored yet, the first record allocates
`count` elements, and a record arriving when `nkeys = count` grows the array first.
`SearchInv` states what this bookkeeping maintains between calls: the array holds exactly the
`nkeys ≤ count` records stored so far, each of a key-id mode and each logged when it was
stored, in a buffer of the byte size allocated for `count` elements; `count` is a non-negative
`int`; and once the array exists, `any_lines` is set, so that no later line is taken for an
`info:` header.

`LogSafe` is the safety of everything a session has done, read off its log: every store went
into a buffer allocated for more elements than its index, and every selection copied at most 50
descriptors, each from a slot below `numdesc`, stored earlier in the session, while `numdesc`
never exceeds the stores made so far; every descriptor handed to `keyserver_get` has a key-id
mode.

Each function of the handler gets one lemma: what it does to the log, and that it keeps the
invariant when it returns no error (`allocDesc_spec`, `storeRecord_inv`, `saveKeyrec_inv`,
`infoLine_inv`, `eofNoRecord_inv`).  A store right after an allocation is below the element
count, so it misses the buffer only when the count's byte size wrapped modulo the width of
`size_t` (`allocStore_error`), which cannot happen when `size_t` holds the bytes of `2 ^ 31`
descriptors (`not_storeWraps`).  **`searchLineHandler_ok`** puts them together for one
call, and the run lemmas of `Safety.lean` induct over the calls.  The last section shows that
once EOF has been seen no record is left open (`searchLineHandler_eofSeen`).
-/

namespace NeoPG

/-! ## Safe logs -/

/-- A store into the descriptor array. -/
def SearchEvent.isStore : SearchEvent → Bool
  | .storeDesc .. => true
  | _ => false

/-- What an event requires of the log before it. -/
def EventSafe (pre : List SearchEvent) : SearchEvent → Prop
  | .storeDesc i elems _ => (i : Int) < elems
  | .select numdesc sel => sel.length ≤ numarrayDim ∧ numdesc ≤ (pre.countP SearchEvent.isStore : Int) ∧
      ∀ p ∈ sel, (p.1 : Int) < numdesc ∧ ∃ e, .storeDesc p.1 e p.2 ∈ pre
  | .get sel _ => ∀ d ∈ sel, d.isKeyId
  | _ => True

/-- Every event of the log is safe with respect to the events before it. -/
def LogSafe (log : List SearchEvent) : Prop :=
  ∀ i (h : i < log.length), EventSafe (log.take i) log[i]

lemma EventSafe.mono {pre : List SearchEvent} {e : SearchEvent} (h : EventSafe pre e)
    (more : List SearchEvent) : EventSafe (pre ++ more) e := by
  cases e with
  | select numdesc sel =>
    obtain ⟨hlen, hn, hp⟩ := h
    refine ⟨hlen, ?_, fun p hp' => ⟨(hp p hp').1, ?_⟩⟩
    · simp only [List.countP_append]
      omega
    · obtain ⟨e, he⟩ := (hp p hp').2
      exact ⟨e, List.mem_append_left _ he⟩
  | _ => exact h

lemma LogSafe.nil : LogSafe [] := fun _ h => absurd h (Nat.not_lt_zero _)

/-- Appending events that are safe after the whole log keeps it safe. -/
lemma LogSafe.append {log : List SearchEvent} (h : LogSafe log) {new : List SearchEvent}
    (hnew : ∀ e ∈ new, EventSafe log e) : LogSafe (log ++ new) := by
  intro i hi
  by_cases hl : i < log.length
  · rw [List.take_append_of_le_length hl.le, List.getElem_append_left hl]
    exact h i hl
  · rw [List.take_append_eq_append_take, List.take_of_length_le (by omega),
      List.getElem_append_right (by omega)]
    exact (hnew _ (List.getElem_mem _)).mono _

lemma LogSafe.snoc {log : List SearchEvent} (h : LogSafe log) {e : SearchEvent}
    (he : EventSafe log e) : LogSafe (log ++ [e]) :=
  h.append fun _ h' => (List.mem_singleton.mp h') ▸ he

/-! ## The invariant -/

/-- The handler's state between calls. -/
structure SearchInv (opts : SearchOpts) (st : SearchState) : Prop where
  count_nonneg : 0 ≤ st.parm.count
  count_lt : st.parm.count < 2 ^ 31
  nkeys_le : (st.parm.nkeys : Int) ≤ st.parm.count
  nkeys_of_none : st.parm.desc = none → st.parm.nkeys = 0
  elems_eq : ∀ a, st.parm.desc = some a → a.elems = st.parm.count
  /-- The buffer has the size allocated for its element count, wrapped or not. -/
  bytes_eq : ∀ a, st.parm.desc = some a → a.bytes = opts.descBytes a.elems
  /-- Every slot below `nkeys` holds a key-id descriptor, stored earlier in the session. -/
  stored : ∀ j < st.parm.nkeys, ∃ d, st.parm.desc.bind (·.slots j) = some d ∧ d.isKeyId ∧
    ∃ e, SearchEvent.storeDesc j e d ∈ st.session.log
  anyLines : st.parm.desc.isSome → st.parm.anyLines
  storeCount : st.session.log.countP SearchEvent.isStore = st.parm.nkeys
  safe : LogSafe st.session.log

/-- A session starts with the invariant. -/
lemma searchInv_start {opts : SearchOpts} (disp : CStr) (promptFrom : Int) (answers : List CStr) :
    SearchInv opts (.start disp promptFrom answers) where
  count_nonneg := Int.le_refl 0
  count_lt := show (0 : Int) < 2 ^ 31 by decide
  nkeys_le := Int.le_refl 0
  nkeys_of_none _ := rfl
  elems_eq _ h := by cases h
  bytes_eq _ h := by cases h
  stored _ h := absurd h (Nat.not_lt_zero _)
  anyLines h := by cases h
  storeCount := rfl
  safe := LogSafe.nil

section Steps

variable {S : Type} {opts : SearchOpts} {env : SearchEnv S} {st st₁ st₂ st' : SearchState}

/-- An allocation event. -/
def SearchEvent.isAlloc : SearchEvent → Bool
  | .malloc .. | .realloc .. => true
  | _ => false

lemma SearchEvent.isAlloc_safe {e : SearchEvent} (h : e.isAlloc) (pre : List SearchEvent) :
    EventSafe pre e ∧ e.isStore = false := by
  cases e <;> first | exact ⟨trivial, rfl⟩ | cases h

/-- **Allocating or growing** writes only `desc`, `count` and `validcount` of `parm`, and only
logged allocations into the session.  When it returns no error, the array is allocated for more
than `nkeys` elements, of a non-negative `int` count, with the slots below `nkeys` that still fit
kept. -/
lemma allocDesc_spec (hinv : SearchInv opts st) {err : Option GpgErr}
    (h : allocDesc opts env st = .ok (st₁, err)) :
    st₁.parm = { st.parm with
        desc := st₁.parm.desc, count := st₁.parm.count, validcount := st₁.parm.validcount } ∧
    (∃ new, st₁.session = { st.session with
        allocs := st₁.session.allocs, log := st.session.log ++ new } ∧ ∀ e ∈ new, e.isAlloc) ∧
    (err = none → ∃ a, st₁.parm.desc = some a ∧ st₁.parm.count = a.elems ∧
      a.bytes = opts.descBytes a.elems ∧
      (st.parm.nkeys : Int) < a.elems ∧ 0 ≤ a.elems ∧ a.elems < 2 ^ 31 ∧
      ∀ j < st.parm.nkeys, j < opts.capacity a.bytes →
        a.slots j = st.parm.desc.bind (·.slots j)) := by
  have hlt := hinv.count_lt
  have hle := hinv.nkeys_le
  unfold allocDesc at h
  cases hd : st.parm.desc with
  | none =>
    have h0 := hinv.nkeys_of_none hd
    simp only [hd, Session.alloc] at h
    by_cases hc : st.parm.count < 1 <;> simp only [hc, if_true, if_false] at h <;>
      cases hok : env.allocOk st.session.allocs <;>
      simp only [hok, Bool.false_eq_true, if_false, if_true] at h <;> cases h <;>
      refine ⟨rfl, ⟨_, rfl, by simp [SearchEvent.isAlloc]⟩, fun he => ?_⟩ <;> cases he
    all_goals refine ⟨_, rfl, rfl, rfl, ?_, ?_, ?_, by simp [h0]⟩ <;> dsimp only <;> omega
  | some a =>
    simp only [hd, Session.alloc] at h
    by_cases hn : (st.parm.nkeys : Int) = st.parm.count
    · rw [if_pos hn] at h
      by_cases hc : 2 ^ 31 ≤ st.parm.count + 10
      · rw [if_pos hc] at h; cases h
      · rw [if_neg hc] at h
        cases hok : env.allocOk st.session.allocs <;>
          simp only [hok, Bool.false_eq_true, if_false, if_true] at h <;> cases h <;>
          refine ⟨rfl, ⟨_, rfl, by simp [SearchEvent.isAlloc]⟩, fun he => ?_⟩ <;> cases he
        refine ⟨_, rfl, rfl, rfl, ?_, ?_, ?_, fun j _ hcap => by simp [hcap]⟩ <;> dsimp only <;>
          omega
    · rw [if_neg hn] at h
      cases h
      have := hinv.elems_eq a hd
      exact ⟨rfl, ⟨[], by simp, by simp⟩, fun _ => ⟨a, hd, this.symm, hinv.bytes_eq a hd,
        by omega, this ▸ hinv.count_nonneg, this ▸ hlt, fun j _ _ => by simp⟩⟩

/-- A store that returns wrote slot `nkeys` of an array that has room for it, and logged it. -/
lemma storeDesc_ok {d : KeydbSearchDesc} (h : storeDesc opts st₁ d = .ok st₂) :
    ∃ a, st₁.parm.desc = some a ∧ st₁.parm.nkeys < opts.capacity a.bytes ∧
      st₂ = ⟨{ st₁.parm with desc := some { a with
          slots := fun j => if j = st₁.parm.nkeys then some d else a.slots j } },
        st₁.session.emit (.storeDesc st₁.parm.nkeys a.elems d)⟩ := by
  unfold storeDesc at h
  cases hd : st₁.parm.desc with
  | none => simp [hd] at h
  | some a =>
    simp only [hd] at h
    split_ifs at h with hc
    cases h
    exact ⟨a, rfl, hc, rfl⟩

/-- **Allocating, then storing** leaves the record in slot `nkeys` and the slots below it as
they were, in an array allocated for more than `nkeys` elements; the log has the allocations
and the store. -/
lemma allocStore_spec (hinv : SearchInv opts st) {d : KeydbSearchDesc}
    (ha : allocDesc opts env st = .ok (st₁, none)) (hs : storeDesc opts st₁ d = .ok st₂) :
    ∃ a, st₂.parm = { st.parm with
        desc := some a, count := a.elems, validcount := st₂.parm.validcount } ∧
      (st.parm.nkeys : Int) < a.elems ∧ 0 ≤ a.elems ∧ a.elems < 2 ^ 31 ∧
      a.bytes = opts.descBytes a.elems ∧ (∀ j ≤ st.parm.nkeys,
        a.slots j = if j = st.parm.nkeys then some d else st.parm.desc.bind (·.slots j)) ∧
      ∃ new, st₂.session = { st.session with
          allocs := st₂.session.allocs
          log := st.session.log ++ new ++ [.storeDesc st.parm.nkeys a.elems d] } ∧
        ∀ e ∈ new, e.isAlloc := by
  obtain ⟨hp₁, ⟨new, hs₁, hnew⟩, hok⟩ := allocDesc_spec hinv ha
  obtain ⟨a₁, hd₁, hc₁, hbytes, hlt, h0, hc, hslots⟩ := hok rfl
  rw [hd₁, hc₁] at hp₁
  obtain ⟨a, hda, hcap, rfl⟩ := storeDesc_ok hs
  have hn : st₁.parm.nkeys = st.parm.nkeys := by rw [hp₁]
  rw [hp₁, Option.some_inj] at hda
  subst hda
  refine ⟨{ a₁ with slots := fun j => if j = st₁.parm.nkeys then some d else a₁.slots j }, ?_,
    hlt, h0, hc, hbytes, fun j hj => ?_, new, ?_, hnew⟩
  · rw [hp₁]
  · dsimp only
    rw [hn]
    split_ifs with hj'
    · rfl
    · exact hslots j (by omega) (by omega)
  · unfold Session.emit
    rw [hn, hs₁]

/-- **A prompt over stored slots is safe.**  When every slot below `numdesc` holds a key-id
descriptor stored earlier, and `numdesc` stores have been made, every event `show_prompt` logs is
safe and is no store. -/
lemma promptEvent_safe {desc : Option DescArray} {numdesc : Int} {log : List SearchEvent}
    (hslots : ∀ j : Nat, (j : Int) < numdesc → ∃ d, desc.bind (·.slots j) = some d ∧ d.isKeyId ∧
      ∃ e, SearchEvent.storeDesc j e d ∈ log)
    (hcount : numdesc ≤ (log.countP SearchEvent.isStore : Int)) {e : SearchEvent}
    (he : PromptEvent desc numdesc e) : EventSafe log e ∧ e.isStore = false := by
  cases e with
  | select n sel =>
    obtain ⟨rfl, hlen, hp⟩ := he
    refine ⟨⟨hlen, hcount, fun p hp' => ⟨(hp p hp').1, ?_⟩⟩, rfl⟩
    obtain ⟨d, hd, -, hst⟩ := hslots p.1 (hp p hp').1
    rw [(hp p hp').2, Option.some_inj] at hd
    exact hd ▸ hst
  | get sel _ =>
    refine ⟨fun d hd => ?_, rfl⟩
    obtain ⟨j, hj, hjd⟩ := he d hd
    obtain ⟨d', hd', hkey, -⟩ := hslots j hj
    rw [hjd, Option.some_inj] at hd'
    exact hd' ▸ hkey
  | colonLine | realloc | storeDesc | keyrec => exact he.elim
  | _ => exact ⟨trivial, rfl⟩

/-- The slots below `nkeys` hold key-id descriptors, as the prompt needs. -/
lemma SearchInv.slotsKeyId (hinv : SearchInv opts st) : SlotsKeyId st.parm.desc st.parm.nkeys :=
  fun j hj => (hinv.stored j (by omega)).imp fun _ hd => ⟨hd.1, hd.2.1⟩

/-- **Showing a record** without `--with-colons`: the prompt when the screen is full, then
`print_keyrec`, which cannot reach `BUG ()` on a key-id record.  Only `numlines` of `parm`
changes; the log grows by the prompt's events and, when the prompt returned no error, the line
printed for record `nkeys + 1`. -/
lemma showKeyrec_spec (opts : SearchOpts) (env : SearchEnv S) {k : Keyrec} (hk : k.desc.isKeyId)
    (hslots : SlotsKeyId st.parm.desc st.parm.nkeys) :
    ∃ st' err pnew, showKeyrec opts env st k = .ok (st', err) ∧
      st'.parm = { st.parm with numlines := st'.parm.numlines } ∧
      (∀ e ∈ pnew, PromptEvent st.parm.desc st.parm.nkeys e) ∧
      ((err = none ∧ ∃ text,
          st'.session.log = st.session.log ++ pnew ++ [.keyrec (st.parm.nkeys + 1) k text]) ∨
        (err.isSome ∧ st'.session.log = st.session.log ++ pnew)) := by
  obtain ⟨text, htext⟩ := (printKeyrec_of_isKeyId env.print (st.parm.nkeys + 1) k).mpr hk
  unfold showKeyrec
  dsimp only
  by_cases hfull : st.parm.numlines + k.lines > opts.screenLines - 1
  · rw [if_pos hfull]
    obtain ⟨s', err, h, ⟨pnew, hlog, hp⟩, -⟩ := showPrompt_spec opts env hslots
      (if st.parm.validcount then st.parm.count else 0) st.parm.searchstrDisp st.session
    rw [h]
    cases err with
    | none =>
      refine ⟨⟨{ st.parm with numlines := 0 }, s'.emit (.keyrec (st.parm.nkeys + 1) k text)⟩, none,
        pnew, ?_, rfl, hp, .inl ⟨rfl, text, by simp [Session.emit, hlog]⟩⟩
      simp only [Except.map, andThenOk_none, htext]
    | some e => exact ⟨_, some e, pnew, rfl, rfl, hp, .inr ⟨rfl, hlog⟩⟩
  · rw [if_neg hfull]
    refine ⟨⟨st.parm, st.session.emit (.keyrec (st.parm.nkeys + 1) k text)⟩, none, [], ?_, rfl,
      by simp, .inl ⟨rfl, text, by simp [Session.emit]⟩⟩
    simp only [htext]
    rfl

/-- What a call of `saveKeyrec` that returns went through: an allocation that failed; or the
allocation, the store and the display, which may end with an error from the prompt or go on to
count the record. -/
lemma saveKeyrec_cases {k : Keyrec} {err : Option GpgErr}
    (h : saveKeyrec opts env st k = .ok (st', err)) :
    (allocDesc opts env st = .ok (st', err) ∧ err.isSome) ∨
    ∃ st₁ st₂ st₃ e, allocDesc opts env st = .ok (st₁, none) ∧
      storeDesc opts st₁ k.desc = .ok st₂ ∧
      (if opts.withColons then .ok (st₂, none) else showKeyrec opts env st₂ k) = .ok (st₃, e) ∧
      ((e.isSome ∧ st' = st₃ ∧ err = e) ∨ (e = none ∧ st' = countKeyrec st₃ k ∧ err = none)) := by
  unfold saveKeyrec at h
  rcases ha : allocDesc opts env st with f | ⟨st₁, _ | e⟩ <;> rw [ha] at h
  · cases h
  · rcases hs : storeDesc opts st₁ k.desc with f | st₂ <;>
      simp only [andThenOk_none, hs, Except.bind] at h
    · cases h
    · refine .inr ⟨st₁, st₂, ?_⟩
      obtain ⟨r, hsh⟩ :
          ∃ r, (if opts.withColons then .ok (st₂, none) else showKeyrec opts env st₂ k) = r :=
        ⟨_, rfl⟩
      rw [hsh] at h
      rcases r with f | ⟨st₃, _ | e⟩
      · cases h
      · cases h
        exact ⟨_, none, rfl, hs, hsh, .inr ⟨rfl, rfl, rfl⟩⟩
      · cases h
        exact ⟨_, some e, rfl, hs, hsh, .inl ⟨rfl, rfl, rfl⟩⟩
  · cases h
    exact .inl ⟨rfl, rfl⟩

/-! ## Between the store and the count -/

/-- The state after record `nkeys` was stored and before it is counted. -/
structure StoredInv (opts : SearchOpts) (st : SearchState) : Prop where
  count_nonneg : 0 ≤ st.parm.count
  count_lt : st.parm.count < 2 ^ 31
  nkeys_lt : (st.parm.nkeys : Int) < st.parm.count
  elems_eq : ∀ a, st.parm.desc = some a → a.elems = st.parm.count
  bytes_eq : ∀ a, st.parm.desc = some a → a.bytes = opts.descBytes a.elems
  desc_some : st.parm.desc.isSome
  stored : ∀ j ≤ st.parm.nkeys, ∃ d, st.parm.desc.bind (·.slots j) = some d ∧ d.isKeyId ∧
    ∃ e, SearchEvent.storeDesc j e d ∈ st.session.log
  storeCount : st.session.log.countP SearchEvent.isStore = st.parm.nkeys + 1
  safe : LogSafe st.session.log

/-- Allocating and storing a key-id record from the invariant reaches the state between store and
count. -/
lemma storeRecord_inv (hinv : SearchInv opts st) {d : KeydbSearchDesc} (hd : d.isKeyId)
    (ha : allocDesc opts env st = .ok (st₁, none)) (hs : storeDesc opts st₁ d = .ok st₂) :
    StoredInv opts st₂ := by
  obtain ⟨a, hp₂, hlt, h0, hc, hbytes, hslots, anew, hs₂, hanew⟩ := allocStore_spec hinv ha hs
  have hlog : st₂.session.log = st.session.log ++ anew ++ [.storeDesc st.parm.nkeys a.elems d] := by
    rw [hs₂]
  have hanew' : anew.countP SearchEvent.isStore = 0 :=
    List.countP_eq_zero.mpr fun e he => by simp [(SearchEvent.isAlloc_safe (hanew e he) []).2]
  have hcount : st₂.parm.count = a.elems := by rw [hp₂]
  have hnk : st₂.parm.nkeys = st.parm.nkeys := by rw [hp₂]
  have hdesc : st₂.parm.desc = some a := by rw [hp₂]
  refine ⟨hcount ▸ h0, hcount ▸ hc, hcount ▸ hnk ▸ hlt,
    fun _ h => by rw [hdesc] at h; cases h; exact hcount.symm,
    fun _ h => by rw [hdesc] at h; cases h; exact hbytes, by simp [hdesc], fun j hj => ?_, ?_, ?_⟩
  · rw [hlog, hdesc, Option.some_bind, hslots j (hnk ▸ hj)]
    split_ifs with hjn
    · exact ⟨d, rfl, hd, a.elems, by simp [hjn]⟩
    · obtain ⟨d', hd', hk', e, he⟩ := hinv.stored j (by omega)
      exact ⟨d', hd', hk', e, by simp [he]⟩
  · rw [hlog, hnk]
    simp [List.countP_append, hinv.storeCount, hanew', SearchEvent.isStore]
  · rw [hlog]
    exact (hinv.safe.append fun e he => (SearchEvent.isAlloc_safe (hanew e he) _).1).snoc
      (show (st.parm.nkeys : Int) < a.elems from hlt)

/-- Appending safe events that are no stores, with `desc`, `count` and `nkeys` as they were,
keeps the state between store and count. -/
lemma StoredInv.extend (hs : StoredInv opts st) {new : List SearchEvent}
    (hd : st'.parm.desc = st.parm.desc) (hc : st'.parm.count = st.parm.count)
    (hn : st'.parm.nkeys = st.parm.nkeys) (hlog : st'.session.log = st.session.log ++ new)
    (hnew : ∀ e ∈ new, EventSafe st.session.log e ∧ e.isStore = false) : StoredInv opts st' where
  count_nonneg := hc ▸ hs.count_nonneg
  count_lt := hc ▸ hs.count_lt
  nkeys_lt := hc ▸ hn ▸ hs.nkeys_lt
  elems_eq a h := hc ▸ hs.elems_eq a (hd ▸ h)
  bytes_eq a h := hs.bytes_eq a (hd ▸ h)
  desc_some := hd ▸ hs.desc_some
  stored j hj := by
    obtain ⟨d, h1, h2, e, h3⟩ := hs.stored j (hn ▸ hj)
    exact ⟨d, hd ▸ h1, h2, e, hlog ▸ List.mem_append_left _ h3⟩
  storeCount := by
    rw [hlog, List.countP_append, hs.storeCount, hn, List.countP_eq_zero.mpr fun e he => by
      simp [(hnew e he).2]]
  safe := hlog ▸ hs.safe.append fun e he => (hnew e he).1

/-- The same for the invariant between calls, where `any_lines` may only be set. -/
lemma SearchInv.extend (hs : SearchInv opts st) {new : List SearchEvent}
    (hd : st'.parm.desc = st.parm.desc) (hc : st'.parm.count = st.parm.count)
    (hn : st'.parm.nkeys = st.parm.nkeys) (ha : st.parm.anyLines → st'.parm.anyLines)
    (hlog : st'.session.log = st.session.log ++ new)
    (hnew : ∀ e ∈ new, EventSafe st.session.log e ∧ e.isStore = false) : SearchInv opts st' where
  count_nonneg := hc ▸ hs.count_nonneg
  count_lt := hc ▸ hs.count_lt
  nkeys_le := hc ▸ hn ▸ hs.nkeys_le
  nkeys_of_none h := hn ▸ hs.nkeys_of_none (hd ▸ h)
  elems_eq a h := hc ▸ hs.elems_eq a (hd ▸ h)
  bytes_eq a h := hs.bytes_eq a (hd ▸ h)
  stored j hj := by
    obtain ⟨d, h1, h2, e, h3⟩ := hs.stored j (hn ▸ hj)
    exact ⟨d, hd ▸ h1, h2, e, hlog ▸ List.mem_append_left _ h3⟩
  anyLines h := ha (hs.anyLines (hd ▸ h))
  storeCount := by
    rw [hlog, List.countP_append, hs.storeCount, hn, List.countP_eq_zero.mpr fun e he => by
      simp [(hnew e he).2], Nat.add_zero]
  safe := hlog ▸ hs.safe.append fun e he => (hnew e he).1

/-- Showing a stored record keeps the state between store and count. -/
lemma showKeyrec_stored (hs : StoredInv opts st) {k : Keyrec} (hk : k.desc.isKeyId)
    {err : Option GpgErr} (h : showKeyrec opts env st k = .ok (st', err)) : StoredInv opts st' := by
  have hslots : ∀ j : Nat, (j : Int) < st.parm.nkeys → ∃ d, st.parm.desc.bind (·.slots j) = some d ∧
      d.isKeyId ∧ ∃ e, SearchEvent.storeDesc j e d ∈ st.session.log :=
    fun j hj => hs.stored j (by omega)
  obtain ⟨st₃, err', pnew, h', hp, hpe, hlog⟩ :=
    showKeyrec_spec opts env hk fun j hj => (hslots j hj).imp fun _ h => ⟨h.1, h.2.1⟩
  rw [h'] at h
  cases h
  have hpnew : ∀ e ∈ pnew, EventSafe st.session.log e ∧ e.isStore = false := fun e he =>
    promptEvent_safe hslots (by rw [hs.storeCount]; omega) (hpe e he)
  rcases hlog with ⟨-, text, hlog⟩ | ⟨-, hlog⟩
  · refine hs.extend (by rw [hp]) (by rw [hp]) (by rw [hp]) (by rw [hlog, List.append_assoc]) ?_
    intro e he
    rcases List.mem_append.mp he with he | he
    · exact hpnew e he
    · rw [List.mem_singleton.mp he]; exact ⟨trivial, rfl⟩
  · exact hs.extend (by rw [hp]) (by rw [hp]) (by rw [hp]) hlog hpnew

/-- Counting the record restores the invariant between calls, with `any_lines` set. -/
lemma countKeyrec_inv (hs : StoredInv opts st) (k : Keyrec) :
    SearchInv opts (countKeyrec st k) where
  count_nonneg := hs.count_nonneg
  count_lt := hs.count_lt
  nkeys_le := by simp only [countKeyrec]; have := hs.nkeys_lt; omega
  nkeys_of_none h := by
    have := hs.desc_some
    simp only [countKeyrec] at h
    simp [h] at this
  elems_eq := hs.elems_eq
  bytes_eq := hs.bytes_eq
  stored j hj := hs.stored j (by simp only [countKeyrec] at hj; omega)
  anyLines _ := rfl
  storeCount := hs.storeCount
  safe := hs.safe

lemma StoredInv.slotsKeyId (hs : StoredInv opts st) : SlotsKeyId st.parm.desc st.parm.nkeys :=
  fun j hj => (hs.stored j (by omega)).imp fun _ hd => ⟨hd.1, hd.2.1⟩

/-- **The display step of a save**: nothing with `--with-colons`, `showKeyrec` otherwise.  It
writes only `numlines` of `parm` and keeps the state between store and count; without
`--with-colons` and without an error, it logged the prompt's events and then the record, as
number `nkeys + 1`. -/
lemma saveKeyrec_display (hs : StoredInv opts st) {k : Keyrec} (hk : k.desc.isKeyId)
    {e : Option GpgErr}
    (h : (if opts.withColons then .ok (st, none) else showKeyrec opts env st k) = .ok (st', e)) :
    st'.parm = { st.parm with numlines := st'.parm.numlines } ∧ StoredInv opts st' ∧
      (opts.withColons = false → e = none → ∃ pnew text,
        st'.session.log = st.session.log ++ (pnew ++ [.keyrec ((st.parm.nkeys : Int) + 1) k text]) ∧
        ∀ e ∈ pnew, PromptEvent st.parm.desc st.parm.nkeys e) := by
  split at h
  · next hwc =>
    cases h
    exact ⟨rfl, hs, fun h' => absurd hwc (by simp [h'])⟩
  · have hst := showKeyrec_stored hs hk h
    obtain ⟨st'', err', pnew, h', hp, hpe, hlog⟩ := showKeyrec_spec opts env hk hs.slotsKeyId
    rw [h'] at h
    cases h
    refine ⟨hp, hst, fun _ he => ?_⟩
    rcases hlog with ⟨-, text, hlog⟩ | ⟨he', -⟩
    · exact ⟨pnew, text, by rw [hlog, List.append_assoc], hpe⟩
    · simp [he] at he'

/-- Growing the array can only fault by `count + 10` overflowing. -/
lemma allocDesc_error {f : Fault} (h : allocDesc opts env st = .error f) : f = .signedOverflow := by
  unfold allocDesc at h
  cases hd : st.parm.desc <;> simp only [hd, Session.alloc] at h
  · split at h <;> cases h
  · by_cases hn : (st.parm.nkeys : Int) = st.parm.count
    · rw [if_pos hn] at h
      by_cases hc : 2 ^ 31 ≤ st.parm.count + 10
      · rw [if_pos hc] at h; cases h; rfl
      · rw [if_neg hc] at h; split at h <;> cases h
    · rw [if_neg hn] at h; cases h

/-- A store can only fault by missing the buffer. -/
lemma storeDesc_error {d : KeydbSearchDesc} {f : Fault} (h : storeDesc opts st d = .error f) :
    f = .storeOutOfBounds := by
  unfold storeDesc at h
  cases hd : st.parm.desc <;> simp only [hd] at h
  · cases h; rfl
  · split_ifs at h; cases h; rfl

/-- A store into slot `i` of an array of `elems < 2 ^ 31` elements, `i < elems`, that misses
the buffer: `elems * sizeof *parm->desc` bytes, wrapped modulo the width of `size_t`, hold at
most `i` descriptors. -/
def StoreWraps (opts : SearchOpts) (i : Nat) (elems : Int) : Prop :=
  (i : Int) < elems ∧ elems < 2 ^ 31 ∧ opts.capacity (opts.descBytes elems) ≤ i

/-- **A store after an allocation misses only a wrapped buffer**: the allocation left the array
more than `nkeys` elements, so the store faults only when their byte size wrapped. -/
lemma allocStore_error (hinv : SearchInv opts st) {d : KeydbSearchDesc} {f : Fault}
    (ha : allocDesc opts env st = .ok (st₁, none)) (hs : storeDesc opts st₁ d = .error f) :
    f = .storeOutOfBounds ∧ ∃ elems, StoreWraps opts st.parm.nkeys elems := by
  obtain ⟨hp₁, -, hok⟩ := allocDesc_spec hinv ha
  obtain ⟨a, hd, -, hbytes, hlt, -, hc, -⟩ := hok rfl
  have hn : st₁.parm.nkeys = st.parm.nkeys := by rw [hp₁]
  unfold storeDesc at hs
  simp only [hd] at hs
  split_ifs at hs with hcap
  cases hs
  exact ⟨rfl, a.elems, hlt, hc, by rw [← hbytes, ← hn]; omega⟩

/-- **Saving a record faults only in memory**: `count + 10` overflowing, or a store at `nkeys`
that misses a buffer whose size wrapped.  The prompt and `print_keyrec` cannot fault on a key-id
record. -/
lemma saveKeyrec_error (hinv : SearchInv opts st) {k : Keyrec} (hk : k.desc.isKeyId) {f : Fault}
    (h : saveKeyrec opts env st k = .error f) :
    f = .signedOverflow ∨ f = .storeOutOfBounds ∧ ∃ elems, StoreWraps opts st.parm.nkeys elems := by
  unfold saveKeyrec at h
  rcases ha : allocDesc opts env st with f' | ⟨st₁, _ | e⟩ <;> rw [ha] at h
  · cases h; exact .inl (allocDesc_error ha)
  · rcases hs : storeDesc opts st₁ k.desc with f' | st₂ <;>
      simp only [andThenOk_none, hs, Except.bind] at h
    · cases h; exact .inr (allocStore_error hinv ha hs)
    · split at h
      · cases h
      · obtain ⟨st₃, err, pnew, h', -⟩ :=
          showKeyrec_spec opts env hk (storeRecord_inv hinv hk ha hs).slotsKeyId
        rw [h'] at h
        cases err <;> cases h
  · cases h

/-- **Saving a record keeps the invariant.**  From the invariant, saving a key-id record that
returns leaves a safe log, and the invariant when it returns no error. -/
lemma saveKeyrec_inv (hinv : SearchInv opts st) {k : Keyrec} (hk : k.desc.isKeyId)
    {err : Option GpgErr} (h : saveKeyrec opts env st k = .ok (st', err)) :
    LogSafe st'.session.log ∧ (err = none → SearchInv opts st') := by
  rcases saveKeyrec_cases h with ⟨ha, he⟩ | ⟨st₁, st₂, st₃, e, ha, hs, hsh, hend⟩
  · obtain ⟨-, ⟨new, hs, hnew⟩, -⟩ := allocDesc_spec hinv ha
    have hlog : st'.session.log = st.session.log ++ new := by rw [hs]
    refine ⟨hlog ▸ hinv.safe.append fun e he => (SearchEvent.isAlloc_safe (hnew e he) _).1,
      fun h => by simp [h] at he⟩
  · have h₂ := storeRecord_inv hinv hk ha hs
    have h₃ := (saveKeyrec_display h₂ hk hsh).2.1
    rcases hend with ⟨he, rfl, rfl⟩ | ⟨-, rfl, rfl⟩
    · exact ⟨h₃.safe, fun h => by simp [h] at he⟩
    · exact ⟨h₃.safe, fun _ => countKeyrec_inv h₃ k⟩

/-! ## The `info:` header and the end of the stream -/

/-- Before the first record the invariant asks only for a count in `int`'s non-negative range. -/
lemma SearchInv.of_empty {p : SearchLineHandlerParm} {s : Session} (hd : p.desc = none)
    (hn : p.nkeys = 0) (hc : 0 ≤ p.count) (hlt : p.count < 2 ^ 31)
    (hcount : s.log.countP SearchEvent.isStore = 0) (hsafe : LogSafe s.log) :
    SearchInv opts ⟨p, s⟩ where
  count_nonneg := hc
  count_lt := hlt
  nkeys_le := by simp only [hn]; exact_mod_cast hc
  nkeys_of_none _ := hn
  elems_eq _ h := by simp [hd] at h
  bytes_eq _ h := by simp [hd] at h
  stored j hj := absurd hj (by simp [hn])
  anyLines h := by simp [hd] at h
  storeCount := by rw [hcount, hn]
  safe := hsafe

/-- An array exists only once `any_lines` is set. -/
lemma SearchInv.desc_eq_none (hinv : SearchInv opts st) (hany : st.parm.anyLines = false) :
    st.parm.desc = none := by
  cases h : st.parm.desc with
  | none => rfl
  | some a => simpa [hany] using hinv.anyLines (by simp [h])

/-- **The `info:` header keeps the invariant**: it is read only while no array exists, and it
sets the count to 0, 10, or a positive `int`, or leaves it. -/
lemma infoLine_inv (hinv : SearchInv opts st) (hany : st.parm.anyLines = false) (longBits : Nat)
    (line : CStr) :
    (infoLine longBits st line).1.session = st.session ∧
      SearchInv opts (infoLine longBits st line).1 := by
  have hd := hinv.desc_eq_none hany
  have h0 := hinv.nkeys_of_none hd
  have hcount : st.session.log.countP SearchEvent.isStore = 0 := by rw [hinv.storeCount, h0]
  unfold infoLine
  dsimp only
  split_ifs
  · exact ⟨rfl, hinv⟩
  · refine ⟨rfl, ?_⟩
    split
    · next c hc =>
      have := infoCount_bounds hc
      split_ifs <;> exact .of_empty hd h0 (by dsimp only; omega) (by dsimp only; omega) hcount
        hinv.safe
    · exact .of_empty hd h0 hinv.count_nonneg hinv.count_lt hcount hinv.safe

/-- **At EOF with nothing to flush** only `validcount` and `not_found` change, a session without
records being marked not found, and the log grows by the last prompt's events over the stored
records. -/
lemma eofNoRecord_spec (opts : SearchOpts) (env : SearchEnv S) (hinv : SearchInv opts st) :
    ∃ st' err, eofNoRecord opts env st = .ok (st', err) ∧
      st'.parm = { st.parm with
        validcount := st'.parm.validcount
        notFound := st.parm.notFound || st.parm.nkeys == 0 } ∧
      PromptExtends st.parm.desc st.parm.nkeys st.session st'.session := by
  unfold eofNoRecord
  dsimp only
  by_cases h0 : st.parm.nkeys = 0
  · rw [if_pos h0]
    exact ⟨_, none, rfl, by simp [h0], .refl⟩
  rw [if_neg h0]
  have h0' : (st.parm.nkeys == 0) = false := by simpa using h0
  generalize hq : (if (st.parm.nkeys : Int) ≠ st.parm.count then
    { st.parm with validcount := false } else st.parm) = q
  have hqp : q = { st.parm with validcount := q.validcount } := by rw [← hq]; split_ifs <;> rfl
  by_cases hcb : opts.withColons ∧ opts.batch
  · rw [if_pos hcb]
    exact ⟨_, none, rfl, by simpa [h0'] using hqp, .refl⟩
  · rw [if_neg hcb]
    have hslots : SlotsKeyId q.desc q.nkeys := by rw [hqp]; exact hinv.slotsKeyId
    obtain ⟨s', err, h, hext, -⟩ := showPrompt_spec opts env hslots
      (if q.validcount then q.count else 0) q.searchstrDisp st.session
    rw [h]
    refine ⟨_, err, rfl, by simpa [h0'] using hqp, ?_⟩
    rw [hqp] at hext
    exact hext

/-- The same, read off a call that returned. -/
lemma eofNoRecord_ok (hinv : SearchInv opts st) {err : Option GpgErr}
    (h : eofNoRecord opts env st = .ok (st', err)) :
    st'.parm = { st.parm with
        validcount := st'.parm.validcount
        notFound := st.parm.notFound || st.parm.nkeys == 0 } ∧
      PromptExtends st.parm.desc st.parm.nkeys st.session st'.session := by
  obtain ⟨st'', err', h', hspec⟩ := eofNoRecord_spec opts env hinv
  rw [h'] at h
  cases h
  exact hspec

/-- At EOF with nothing to flush, the invariant is kept: only the flags change, and the last
prompt, over the stored records, logs safe events. -/
lemma eofNoRecord_inv (opts : SearchOpts) (env : SearchEnv S) (hinv : SearchInv opts st) :
    ∃ st' err, eofNoRecord opts env st = .ok (st', err) ∧ LogSafe st'.session.log ∧
      (err = none → SearchInv opts st') := by
  obtain ⟨st', err, h, hp, pnew, hlog, hpe⟩ := eofNoRecord_spec opts env hinv
  have hslots : ∀ j : Nat, (j : Int) < st.parm.nkeys → ∃ d, st.parm.desc.bind (·.slots j) = some d ∧
      d.isKeyId ∧ ∃ e, SearchEvent.storeDesc j e d ∈ st.session.log :=
    fun j hj => hinv.stored j (by omega)
  have hnew : ∀ e ∈ pnew, EventSafe st.session.log e ∧ e.isStore = false := fun e he =>
    promptEvent_safe hslots (by simp [hinv.storeCount]) (hpe e he)
  have hinv' : SearchInv opts st' :=
    hinv.extend (by rw [hp]) (by rw [hp]) (by rw [hp]) (by rw [hp]; exact id) hlog hnew
  exact ⟨st', err, h, hinv'.safe, fun _ => hinv'⟩

/-- The faults a search can run into: a store that misses a buffer whose size wrapped,
`count + 10` past `INT_MAX`, and the dangling `work`. -/
def SearchFault (opts : SearchOpts) (f : Fault) : Prop :=
  (f = .storeOutOfBounds ∧ ∃ i elems, StoreWraps opts i elems) ∨ f = .signedOverflow ∨
    f = .useAfterFree

/-- What a handler call from the invariant may end in: one of those faults, or a return with
`work` well formed, a safe log, and the invariant when no error was returned. -/
def StepOk (opts : SearchOpts) : Except Fault (WorkSlot × SearchState × Option GpgErr) → Prop
  | .ok (w, st, err) => w.Wf ∧ LogSafe st.session.log ∧ (err = none → SearchInv opts st)
  | .error f => SearchFault opts f

/-- A data line that is not a header: parse, and save what the parser hands back. -/
lemma againLine_ok {work : WorkSlot} (hw : work.Wf) (hinv : SearchInv opts st) (line : CStr) :
    StepOk opts (againLine opts env work st line) := by
  unfold againLine
  rcases hp : parseKeyrec env.parse work (some line) with f | ⟨w', _ | k⟩
  · exact .inr (.inr (parseKeyrec_error hp))
  · exact ⟨(parseKeyrec_isKeyId hw hp).1, hinv.safe, fun _ => hinv⟩
  · obtain ⟨hw', hk⟩ := parseKeyrec_isKeyId hw hp
    dsimp only
    rcases hs : saveKeyrec opts env st k with f | ⟨st', err⟩ <;> dsimp only [Except.map, StepOk]
    · rcases saveKeyrec_error hinv (hk k rfl) hs with rfl | ⟨rfl, e, hwrap⟩
      · exact .inr (.inl rfl)
      · exact .inl ⟨rfl, _, e, hwrap⟩
    · exact ⟨hw', saveKeyrec_inv hinv (hk k rfl) hs⟩

/-- **The EOF branch** with its `goto again` loop, by induction on what is left to flush. -/
lemma againAtEof_ok : ∀ (work : WorkSlot) (st : SearchState), work.Wf → SearchInv opts st →
    StepOk opts (againAtEof opts env work st) := by
  suffices ∀ n (work : WorkSlot), work.pending.length = n → ∀ st, work.Wf → SearchInv opts st →
      StepOk opts (againAtEof opts env work st) from fun work => this _ work rfl
  intro n
  induction n using Nat.strong_induction_on with
  | _ n ih =>
  intro work hn st hw hinv
  have hinv' : SearchInv opts st.setEofSeen :=
    hinv.extend rfl rfl rfl id (List.append_nil _).symm (by simp)
  rw [againAtEof]
  split
  · next f hp => exact .inr (.inr (parseKeyrec_error hp))
  · next w' hp =>
    obtain ⟨st', err, h, hsafe, hinv''⟩ := eofNoRecord_inv opts env hinv'
    rw [h]
    exact ⟨(parseKeyrec_isKeyId hw hp).1, hsafe, hinv''⟩
  · next w' k hp =>
    obtain ⟨hw', hk⟩ := parseKeyrec_isKeyId hw hp
    obtain ⟨h1, h2⟩ := parseKeyrecFlush_pending hp
    rcases hs : saveKeyrec opts env _ k with f | ⟨st', _ | e⟩
    · rcases saveKeyrec_error hinv' (hk k rfl) hs with rfl | ⟨rfl, e, hwrap⟩
      · exact .inr (.inl rfl)
      · exact .inl ⟨rfl, _, e, hwrap⟩
    · have := saveKeyrec_inv hinv' (hk k rfl) hs
      exact ih _ (by rw [← hn, ← h1]; simp [h2]) w' rfl st' hw' (this.2 rfl)
    · exact ⟨hw', (saveKeyrec_inv hinv' (hk k rfl) hs).1, fun h => by cases h⟩

/-- The `--with-colons` echo of a data line logs the line and writes nothing of `parm`, so it
keeps the invariant; without `--with-colons` there is no echo. -/
lemma colonEcho_spec (opts : SearchOpts) (hinv : SearchInv opts st) (line : CStr) :
    let st₁ : SearchState :=
      if opts.withColons then { st with session := st.session.emit (.colonLine line) } else st
    SearchInv opts st₁ ∧ st₁.parm = st.parm ∧ (opts.withColons = false → st₁ = st) := by
  dsimp only
  by_cases hwc : opts.withColons
  · rw [if_pos hwc]
    exact ⟨hinv.extend rfl rfl rfl id rfl (List.forall_mem_singleton.mpr ⟨trivial, rfl⟩), rfl,
      fun h' => absurd hwc (by simp [h'])⟩
  · rw [if_neg hwc]
    exact ⟨hinv, rfl, fun _ => rfl⟩

/-- **One call of the handler keeps the invariant.**  From a state with the invariant and a
well-formed `work`, every call either faults in memory or returns with `work` well formed and a
safe log, and with the invariant when it returned no error. -/
theorem searchLineHandler_ok {work : WorkSlot} (hw : work.Wf) (hinv : SearchInv opts st)
    (call : HandlerCall) : StepOk opts (searchLineHandler opts env work st call) := by
  unfold searchLineHandler
  by_cases hs : call.special ≠ 0
  · rw [if_pos hs]
    exact ⟨hw, hinv.safe, fun _ => hinv⟩
  rw [if_neg hs]
  generalize (if st.parm.eofSeen then none else call.line) = line
  cases line with
  | none => exact againAtEof_ok work st hw hinv
  | some line =>
    dsimp only
    obtain ⟨hc, -, -⟩ := colonEcho_spec opts hinv line
    generalize (if opts.withColons then
      { st with session := st.session.emit (.colonLine line) } else st) = st' at hc ⊢
    by_cases hinfo : (!st'.parm.anyLines) = true ∧ asciiStrncasecmpEq "info:".toList line 5 = true
    · rw [if_pos hinfo]
      have hany : st'.parm.anyLines = false := by simpa using hinfo.1
      obtain ⟨hsess, hinv'⟩ := infoLine_inv hc hany env.parse.longBits line
      show work.Wf ∧ LogSafe (infoLine env.parse.longBits st' line).1.session.log ∧ (_ → _)
      exact ⟨hw, hsess ▸ hc.safe, fun _ => hinv'⟩
    · rw [if_neg hinfo]
      exact againLine_ok hw hc line

/-! ## The end of the stream -/

/-- `eof_seen` and `not_found`: the fields of `parm` only the `info:` header and the end of the
stream write. -/
def SearchLineHandlerParm.endFlags (p : SearchLineHandlerParm) : Bool × Bool :=
  (p.eofSeen, p.notFound)

lemma allocDesc_endFlags (hinv : SearchInv opts st) {err : Option GpgErr}
    (h : allocDesc opts env st = .ok (st₁, err)) : st₁.parm.endFlags = st.parm.endFlags := by
  rw [(allocDesc_spec hinv h).1]
  rfl

/-- Saving a record writes neither `eof_seen` nor `not_found`. -/
lemma saveKeyrec_endFlags (hinv : SearchInv opts st) {k : Keyrec} (hk : k.desc.isKeyId)
    {err : Option GpgErr} (h : saveKeyrec opts env st k = .ok (st', err)) :
    st'.parm.endFlags = st.parm.endFlags := by
  rcases saveKeyrec_cases h with ⟨ha, -⟩ | ⟨st₁, st₂, st₃, e, ha, hs, hsh, hend⟩
  · exact allocDesc_endFlags hinv ha
  · have hp₃ := (saveKeyrec_display (storeRecord_inv hinv hk ha hs) hk hsh).1
    obtain ⟨a, -, -, rfl⟩ := storeDesc_ok hs
    have h₃ : st₃.parm.endFlags = st₁.parm.endFlags := by rw [hp₃]; rfl
    rcases hend with ⟨-, rfl, -⟩ | ⟨-, rfl, -⟩ <;> exact h₃.trans (allocDesc_endFlags hinv ha)

/-- **What a data line does in `again:`**: `parse_keyrec` takes the line, and either hands
nothing back and the state is left as it was, or hands back the record the line completed, which
is saved. -/
lemma againLine_cases {work w' : WorkSlot} {line : CStr} {err : Option GpgErr}
    (h : againLine opts env work st line = .ok (w', st', err)) :
    ∃ r, parseKeyrec env.parse work (some line) = .ok (w', r) ∧
      ((r = none ∧ st' = st ∧ err = none) ∨
        ∃ k, r = some k ∧ saveKeyrec opts env st k = .ok (st', err)) := by
  unfold againLine at h
  rcases hp : parseKeyrec env.parse work (some line) with f | ⟨w'', _ | k⟩ <;> rw [hp] at h
  · cases h
  · cases h
    exact ⟨none, rfl, .inl ⟨rfl, rfl, rfl⟩⟩
  · dsimp only at h
    rcases hs : saveKeyrec opts env st k with f | ⟨st'', e⟩ <;> rw [hs] at h <;> cases h
    exact ⟨some k, rfl, .inr ⟨k, rfl, hs⟩⟩

/-- A data line that is not a header writes neither `eof_seen` nor `not_found`. -/
lemma againLine_endFlags {work w' : WorkSlot} (hw : work.Wf) (hinv : SearchInv opts st)
    {line : CStr} {err : Option GpgErr} (h : againLine opts env work st line = .ok (w', st', err)) :
    st'.parm.endFlags = st.parm.endFlags := by
  obtain ⟨r, hp, ⟨-, rfl, -⟩ | ⟨k, rfl, hs⟩⟩ := againLine_cases h
  · rfl
  · exact saveKeyrec_endFlags hinv ((parseKeyrec_isKeyId hw hp).2 k rfl) hs

/-- **The EOF branch**: the flush hands back at most the record left open.  With none, the
end-of-stream step runs at once; with one, it is saved, and unless that returned an error, the
flush runs again on the cleared `work`, hands back nothing, and the end-of-stream step follows. -/
lemma againAtEof_cases {work w' : WorkSlot} {err : Option GpgErr}
    (h : againAtEof opts env work st = .ok (w', st', err)) :
    (work.pending = [] ∧ parseKeyrecFlush work = .ok (w', none) ∧
      eofNoRecord opts env st.setEofSeen = .ok (st', err)) ∨
    ∃ k st₁ e, work = .alloc k ∧ work.pending = [k.desc] ∧ w' = .null ∧
      saveKeyrec opts env st.setEofSeen k = .ok (st₁, e) ∧
      ((e.isSome ∧ st' = st₁ ∧ err = e) ∨
        (e = none ∧ eofNoRecord opts env st₁.setEofSeen = .ok (st', err))) := by
  rw [againAtEof] at h
  split at h
  · cases h
  · next w'' hp =>
    rcases he : eofNoRecord opts env st.setEofSeen with f | ⟨st'', e⟩ <;> rw [he] at h <;> cases h
    exact .inl ⟨by simpa using (parseKeyrecFlush_pending hp).1.symm, hp, rfl⟩
  · next w'' k hp =>
    have hflush : work = .alloc k ∧ work.pending = [k.desc] ∧ w'' = .null := by
      cases work with
      | alloc k' =>
        simp only [parseKeyrec, parseKeyrecFlush] at hp
        split_ifs at hp with hk <;>
          simp only [Except.ok.injEq, Prod.mk.injEq, Option.some.injEq, reduceCtorEq,
            and_false] at hp
        obtain ⟨rfl, rfl⟩ := hp
        simp [WorkSlot.pending, hk]
      | _ => cases hp
    obtain ⟨rfl, hpend, rfl⟩ := hflush
    refine .inr ⟨k, ?_⟩
    rcases hs : saveKeyrec opts env st.setEofSeen k with f | ⟨st₁, _ | e⟩ <;> rw [hs] at h <;>
      dsimp only at h
    · cases h
    · rw [againAtEof] at h
      split at h
      · cases h
      · next hp' =>
        cases hp'
        rcases he : eofNoRecord opts env st₁.setEofSeen with f | ⟨st'', e⟩ <;> rw [he] at h <;>
          cases h
        exact ⟨st₁, none, rfl, hpend, rfl, rfl, .inr ⟨rfl, he⟩⟩
      · next hp' => cases hp'
    · cases h
      exact ⟨_, some e, rfl, hpend, rfl, rfl, .inl ⟨rfl, rfl, rfl⟩⟩

lemma againAtEof_pending {work w' : WorkSlot} {err : Option GpgErr}
    (h : againAtEof opts env work st = .ok (w', st', err)) : w'.pending = [] := by
  rcases againAtEof_cases h with ⟨-, hf, -⟩ | ⟨k, -, -, -, -, rfl, -⟩
  · exact (parseKeyrecFlush_pending hf).2
  · rfl

/-- The `info:` header writes `count`, `validcount`, `any_lines` and, for a declared count of 0,
`not_found`, and nothing else. -/
lemma infoLine_parm (longBits : Nat) (st : SearchState) (line : CStr) :
    (infoLine longBits st line).1.session = st.session ∧
      (infoLine longBits st line).1.parm.desc = st.parm.desc ∧
      (infoLine longBits st line).1.parm.nkeys = st.parm.nkeys ∧
      (infoLine longBits st line).1.parm.eofSeen = st.parm.eofSeen ∧
      ((infoLine longBits st line).1.parm.notFound →
        st.parm.notFound ∨ infoCount longBits line = some 0) := by
  unfold infoLine
  dsimp only
  split_ifs
  · exact ⟨rfl, rfl, rfl, rfl, .inl⟩
  · split
    · next c hc =>
      split_ifs with h0
      · exact ⟨rfl, rfl, rfl, rfl, fun _ => .inr (h0 ▸ hc)⟩
      all_goals exact ⟨rfl, rfl, rfl, rfl, .inl⟩
    · exact ⟨rfl, rfl, rfl, rfl, .inl⟩

/-- **What one call of the handler can do.**  A special line changes nothing.  With no line, or
any line once EOF has been seen, the EOF branch runs.  Otherwise the line is echoed under
`--with-colons`, then read as the `info:` header while no data line has been seen, and handed to
`again:` in every other case. -/
lemma searchLineHandler_cases {work w' : WorkSlot} {call : HandlerCall} {err : Option GpgErr}
    (h : searchLineHandler opts env work st call = .ok (w', st', err)) :
    (call.special ≠ 0 ∧ w' = work ∧ st' = st ∧ err = none) ∨
    (call.special = 0 ∧ (st.parm.eofSeen = true ∨ call.line = none) ∧
      againAtEof opts env work st = .ok (w', st', err)) ∨
    ∃ line st₁, call.special = 0 ∧ st.parm.eofSeen = false ∧ call.line = some line ∧
      st₁ = (if opts.withColons then
        { st with session := st.session.emit (.colonLine line) } else st) ∧
      ((((!st₁.parm.anyLines) = true ∧ asciiStrncasecmpEq "info:".toList line 5 = true) ∧
          w' = work ∧ (st', err) = infoLine env.parse.longBits st₁ line) ∨
        (¬((!st₁.parm.anyLines) = true ∧ asciiStrncasecmpEq "info:".toList line 5 = true) ∧
          againLine opts env work st₁ line = .ok (w', st', err))) := by
  unfold searchLineHandler at h
  by_cases hs : call.special ≠ 0
  · rw [if_pos hs] at h
    cases h
    exact .inl ⟨hs, rfl, rfl, rfl⟩
  rw [if_neg hs] at h
  rw [ne_eq, not_not] at hs
  cases hl : (if st.parm.eofSeen then none else call.line) with
  | none =>
    rw [hl] at h
    refine .inr (.inl ⟨hs, ?_, h⟩)
    cases he : st.parm.eofSeen
    · rw [he, if_neg Bool.false_ne_true] at hl
      exact .inr hl
    · exact .inl rfl
  | some line =>
    rw [hl] at h
    have hf : st.parm.eofSeen = false := by
      by_contra hc
      simp [hc] at hl
    rw [hf, if_neg Bool.false_ne_true] at hl
    dsimp only at h
    generalize hst : (if opts.withColons then
      { st with session := st.session.emit (.colonLine line) } else st) = st₁ at h
    refine .inr (.inr ⟨line, st₁, hs, hf, hl, hst.symm, ?_⟩)
    by_cases hinfo : (!st₁.parm.anyLines) = true ∧ asciiStrncasecmpEq "info:".toList line 5 = true
    · rw [if_pos hinfo] at h
      obtain ⟨rfl, hres⟩ := Prod.mk.inj (Except.ok.inj h)
      exact .inl ⟨hinfo, rfl, hres.symm⟩
    · rw [if_neg hinfo] at h
      exact .inr ⟨hinfo, h⟩

/-- **Once EOF has been seen, no record is left open**: the EOF branch always ends on a cleared
or freed `work`, and no other branch sets `eof_seen`. -/
lemma searchLineHandler_eofSeen {work w' : WorkSlot} (hw : work.Wf) (hinv : SearchInv opts st)
    (heof : st.parm.eofSeen → work.pending = []) (call : HandlerCall) {err : Option GpgErr}
    (h : searchLineHandler opts env work st call = .ok (w', st', err)) :
    st'.parm.eofSeen → w'.pending = [] := by
  rcases searchLineHandler_cases h with ⟨-, rfl, rfl, -⟩ | ⟨-, -, h⟩ |
    ⟨line, st₁, -, hf, -, rfl, hcase⟩
  · exact heof
  · exact fun _ => againAtEof_pending h
  obtain ⟨hc, hp₁, -⟩ := colonEcho_spec opts hinv line
  intro h'
  have hst : st'.parm.eofSeen = st.parm.eofSeen := by
    rcases hcase with ⟨-, -, hres⟩ | ⟨-, h⟩
    · rw [show st' = _ from congrArg Prod.fst hres, (infoLine_parm _ _ line).2.2.2.1, hp₁]
    · rw [show st'.parm.eofSeen = _ from congrArg Prod.fst (againLine_endFlags hw hc h), hp₁]
      rfl
  rw [hst, hf] at h'
  cases h'

end Steps

end NeoPG
