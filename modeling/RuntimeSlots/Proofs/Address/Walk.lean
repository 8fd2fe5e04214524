import RuntimeSlots.Proofs.Address.Book

/-!
# Walks against any source

A source may answer differently each time it is asked, so what `AddressBook.collect` makes of a
layout is told by the answers of its own run, `AddressSource.Answers`.  Whatever these are, the
questions, the log and the result of the walk stay in step, and the indices are those of the layout.

* `AddressSource.exists_answers_of_slots` finds the answers in front of the first miss.
* `AddressBook.walk` is what can be seen of a walk; `AddressBook.walk_of_overflow`,
  `AddressBook.walk_of_answers` and `AddressBook.walk_of_miss` are its three endings.
* `AddressBook.walk_ok_iff` says which runs fill a book.
* `AddressBook.collect_noting` compares `AddressBook.collect` with the walk that notes its
  questions.
* `AddressBook.staysInStep` says for any source which ending there is and what it looks like.
-/

namespace RuntimeSlots

/-! ## Runs of a source up to a miss -/

namespace AddressSource

variable {σ : Type} {source : AddressSource σ} {expected index : Int32} {state last : σ}
  {answers : List Address}

/-- Asked `count` questions at most, `source` runs through all of them, or through those in front of
the first one that it has no answer to. -/
theorem exists_answers (source : AddressSource σ) (expected : Int32) (count : Nat) (index : Int32)
    (state : σ) :
    ∃ answers last, source.Answers expected index state answers last ∧
      (answers.length = count ∨ answers.length < count ∧
        ∃ next, source (index + Int32.ofNat answers.length) expected last = (none, next)) := by
  -- Induction on the number of questions that are left.
  induction count generalizing index state with
  | zero => exact ⟨[], state, .nil _ _, .inl rfl⟩
  | succ count ih =>
    rcases hfirst : source index expected state with ⟨_ | address, next⟩
    case none =>
      -- The first question has no answer, so no slot is run through.
      refine ⟨[], state, .nil _ _, .inr ⟨Nat.succ_pos _, next, ?_⟩⟩
      rw [List.length_nil, add_ofNat_zero, hfirst]
    case some =>
      obtain ⟨answers, last, hanswers, hend⟩ := ih (index + 1) next
      refine ⟨address :: answers, last, .cons hfirst hanswers, ?_⟩
      rcases hend with hfull | ⟨hlt, after, hmiss⟩
      · exact .inl (congrArg Nat.succ hfull)
      · refine .inr ⟨Nat.succ_lt_succ hlt, after, ?_⟩
        rw [List.length_cons, add_ofNat_succ]
        exact hmiss

/-- `exists_answers` for the questions of `AddressBook.collect`: `source` answers about every slot
of the layout, or there is a first slot without an answer. -/
theorem exists_answers_of_slots (source : AddressSource σ) (slots : List Slot) (state : σ) :
    ∃ answers last, source.Answers (Int32.ofNat slots.length) 0 state answers last ∧
      (answers.length = slots.length ∨ ∃ slot next, slots[answers.length]? = some slot ∧
        source (Int32.ofNat answers.length) (Int32.ofNat slots.length) last = (none, next)) := by
  obtain ⟨answers, last, hanswers, hend⟩ :=
    source.exists_answers (Int32.ofNat slots.length) slots.length 0 state
  refine ⟨answers, last, hanswers, hend.imp_right ?_⟩
  rintro ⟨hlt, next, hmiss⟩
  rw [Int32.zero_add] at hmiss
  exact ⟨slots[answers.length], next, List.getElem?_eq_getElem hlt, hmiss⟩

/-- The questions about `count` consecutive slots, the first of which has the given index. -/
def questions (expected index : Int32) (count : Nat) : List (Int32 × Int32) :=
  (List.range count).map fun k => (index + Int32.ofNat k, expected)

/-- The first question comes off in front, as `AddressSource.Answers` is built. -/
theorem questions_cons (expected index : Int32) (count : Nat) :
    questions expected index (count + 1) =
      (index, expected) :: questions expected (index + 1) count := by
  simp only [questions, List.range_succ_eq_map, List.map_cons, List.map_map, Function.comp_def,
    Nat.succ_eq_add_one, add_ofNat_succ, add_ofNat_zero]

/-- The last question comes off behind; it is the one that a miss adds to those answered. -/
theorem questions_concat (expected index : Int32) (count : Nat) :
    questions expected index (count + 1) =
      questions expected index count ++ [(index + Int32.ofNat count, expected)] := by
  rw [questions, List.range_succ, List.map_append, questions]
  rfl

/-- `AddressSource.noting` runs through the same answers and notes the questions of the run, the
latest in front of what was noted before. -/
theorem Answers.noting (h : source.Answers expected index state answers last)
    (noted : List (Int32 × Int32)) :
    source.noting.Answers expected index (state, noted) answers
      (last, (questions expected index answers.length).reverse ++ noted) := by
  -- Each answer puts its question in front of `noted`, so that has to vary.
  induction h generalizing noted with
  | nil index state => exact .nil _ _
  | @cons index state next last address rest hfirst hrest ih =>
    rw [List.length_cons, questions_cons, List.reverse_cons, List.append_assoc,
      List.singleton_append]
    refine .cons ?_ (ih ((index, expected) :: noted))
    simp only [AddressSource.noting, hfirst]

end AddressSource

namespace AddressBook

open AddressSource

variable {σ : Type} {source : AddressSource σ} {slots : List Slot} {answers : List Address}
  {state last next : σ}

/-! ## The endings of a walk -/

/-- `collectFrom` ends at the first slot for which the source has no answer; the book of what was
recorded until then is no part of the result. -/
theorem collectFrom_of_miss {expected index : Int32} {slot : Slot} {book : AddressBook}
    (hanswers : source.Answers expected index state answers last)
    (hslot : slots[answers.length]? = some slot)
    (hmiss : source (index + Int32.ofNat answers.length) expected last = (none, next)) :
    collectFrom source expected slots index book state = {
      result := .error (.missing (index + Int32.ofNat answers.length) slot.name)
      events := registeredEvents index (slots.zip answers) ++
        [.missed (index + Int32.ofNat answers.length) slot.name expected]
      source := next } := by
  -- Induction on the run of the source; the walk takes one slot for each answer.
  induction hanswers generalizing slots book with
  | nil index state =>
    cases slots with
    | nil => cases hslot
    | cons first rest =>
      -- No answer is left, so the next slot is the one that is missed.
      obtain rfl := Option.some.inj hslot
      rw [List.length_nil, add_ofNat_zero] at hmiss ⊢
      rw [collectFrom, hmiss]
      rfl
  | @cons index state after last address others hfirst hrest ih =>
    cases slots with
    | nil => cases hslot
    | cons first rest =>
      rw [List.length_cons, add_ofNat_succ] at hmiss ⊢
      have htail := @ih rest (book.record first.name address) hslot hmiss
      rw [collectFrom, hfirst]
      simp only [htail, List.zip_cons_cons, registeredEvents, List.cons_append]

/-- What can be seen of `collect`: how it ended, what it told the log, and which questions it put to
the source, each with an index and a count. -/
structure Walk where
  result : Except Failure AddressBook
  log : List Log.Record
  questions : List (Int × Int)

/-- The walk of `collect` over a layout, with `AddressSource.noting` to see its questions. -/
def walk (source : AddressSource σ) (slots : List Slot) (state : σ) : Walk :=
  let collection := collect source.noting slots (state, [])
  { result := collection.result
    log := collection.events.map Event.toRecord
    questions := collection.source.2.reverse.map fun question =>
      (question.1.toInt, question.2.toInt) }

/-- The greatest number of slots that a source can be told. -/
def countLimit : Nat := Int32.maxValue.toInt.toNat

theorem lt_of_le_countLimit {k : Nat} (hk : k ≤ countLimit) : k < 0x80000000 :=
  Nat.lt_succ_of_le hk

/-- Up to `countLimit`, `Int32.ofNat` keeps a number as it is. -/
theorem toInt_ofNat {k : Nat} (hk : k ≤ countLimit) : (Int32.ofNat k).toInt = k :=
  Int32.toInt_ofNat_of_lt (lt_of_le_countLimit hk)

/-- The questions about the first slots of a layout, counted without overflow. -/
def questionsBelow (slots : List Slot) (count : Nat) : List (Int × Int) :=
  (List.range count).map fun index : Nat => ((index : Int), (slots.length : Int))

/-- The records that tell of the answers to the first questions, one for each slot. -/
def registrations (slots : List Slot) (answers : List Address) : List Log.Record :=
  (slots.zip answers).zipIdx.map fun entry => {
    level := .debug, target := "syslookup::registry", message := "registered"
    fields := [("index", .number entry.2), ("name", .text entry.1.1.name),
      ("addr", .address entry.1.2)] }

/-- The record that tells of the slot for which the source had no answer. -/
def missRecord (index : Nat) (name : String) (expected : Nat) : Log.Record where
  level := .warn
  target := "syslookup::registry"
  message := "syslookup miss"
  fields := [("index", .number index), ("name", .text name), ("expected", .number expected)]

/-- The record that tells that every slot was registered. -/
def fullRecord (count : Nat) : Log.Record where
  level := .debug
  target := "syslookup::registry"
  message := "syslookup registry populated"
  fields := [("count", .number count)]

theorem map_questions (hcount : slots.length ≤ countLimit) {count : Nat}
    (h : count ≤ slots.length) :
    ((AddressSource.questions (Int32.ofNat slots.length) 0 count).map fun question =>
      (question.1.toInt, question.2.toInt)) = questionsBelow slots count := by
  rw [AddressSource.questions, List.map_map, questionsBelow]
  apply List.map_congr_left
  intro k hk
  have hlt : k < count := List.mem_range.mp hk
  simp only [Function.comp_apply, Int32.zero_add, toInt_ofNat hcount,
    toInt_ofNat (show k ≤ countLimit by omega)]

/-- `registeredEvents` counts the index up as it goes; here the index is the place in the list. -/
theorem registeredEvents_eq_map_zipIdx (index : Int32) (found : List (Slot × Address)) :
    registeredEvents index found = found.zipIdx.map fun entry =>
      .registered (index + Int32.ofNat entry.2) entry.1.1.name entry.1.2 := by
  induction found generalizing index with
  | nil => rfl
  | cons entry rest ih =>
    -- Places in the tail count from one, indices from `index + 1`.
    rw [registeredEvents, ih, List.zipIdx_cons, List.map_cons, add_ofNat_zero, Nat.zero_add,
      List.zipIdx_succ]
    simp only [List.map_map, Function.comp_def, add_ofNat_succ]

/-- The records of `registeredEvents` carry the numbers of the slots, since none of them wraps. -/
theorem map_registeredEvents (hcount : slots.length ≤ countLimit) (answers : List Address) :
    (registeredEvents 0 (slots.zip answers)).map Event.toRecord =
      registrations slots answers := by
  rw [registeredEvents_eq_map_zipIdx, List.map_map, registrations]
  apply List.map_congr_left
  intro entry hentry
  -- The number of an entry is below their count, and so within the limit.
  have hlt : entry.2 < (slots.zip answers).length := List.snd_lt_of_mem_zipIdx hentry
  rw [List.length_zip] at hlt
  simp only [Function.comp_apply, Event.toRecord, Int32.zero_add,
    toInt_ofNat (show entry.2 ≤ countLimit by omega)]

/-- Within `countLimit` the layout is walked with its own length as the count. -/
theorem collect_of_le (hcount : slots.length ≤ countLimit) (source : AddressSource σ) (state : σ) :
    collect source slots state =
      collectFrom source (Int32.ofNat slots.length) slots 0 empty state := by
  rw [collect, expectedCount, if_pos (lt_of_le_countLimit hcount)]

/-- The first ending: a layout beyond `countLimit` is refused before any question. -/
theorem walk_of_overflow (hcount : countLimit < slots.length) (source : AddressSource σ)
    (state : σ) :
    walk source slots state =
      { result := .error (.countOverflow slots.length), log := [], questions := [] } := by
  have hrefused : expectedCount slots.length = .error (.countOverflow slots.length) :=
    if_neg (Nat.not_lt_of_le hcount)
  rw [walk, collect, hrefused]
  rfl

/-- The second ending: along a run with one answer for each slot every question is asked, and the
book of the answers is filled. -/
theorem walk_of_answers (hcount : slots.length ≤ countLimit)
    (hlength : answers.length = slots.length)
    (hanswers : source.Answers (Int32.ofNat slots.length) 0 state answers last) :
    walk source slots state = {
      result := .ok (empty.recordAll (slots.zip answers))
      log := registrations slots answers ++ [fullRecord slots.length]
      questions := questionsBelow slots slots.length } := by
  rw [walk, collect_of_le hcount, collectFrom_of_answers hlength.symm (hanswers.noting [])]
  simp only [List.map_append, map_registeredEvents hcount, List.append_nil, List.reverse_reverse,
    hlength, map_questions hcount (Nat.le_refl _), List.map_cons, List.map_nil, Event.toRecord,
    fullRecord, show empty.size = 0 from rfl, Nat.zero_add]

/-- The third ending: behind the answers of a run the source misses a slot, and the question about
that slot is the last. -/
theorem walk_of_miss (hcount : slots.length ≤ countLimit) {slot : Slot}
    (hanswers : source.Answers (Int32.ofNat slots.length) 0 state answers last)
    (hslot : slots[answers.length]? = some slot)
    (hmiss : source (Int32.ofNat answers.length) (Int32.ofNat slots.length) last = (none, next)) :
    walk source slots state = {
      result := .error (.missing (Int32.ofNat answers.length) slot.name)
      log := registrations slots answers ++
        [missRecord answers.length slot.name slots.length]
      questions := questionsBelow slots (answers.length + 1) } := by
  have hlt : answers.length < slots.length := (List.getElem?_eq_some_iff.mp hslot).1
  -- The question that is missed is noted in front of those that were answered.
  have hnoted : source.noting (0 + Int32.ofNat answers.length) (Int32.ofNat slots.length)
      (last, (AddressSource.questions (Int32.ofNat slots.length) 0 answers.length).reverse ++ []) =
      (none, next, (AddressSource.questions (Int32.ofNat slots.length) 0
        (answers.length + 1)).reverse) := by
    rw [Int32.zero_add, AddressSource.noting, hmiss, questions_concat, List.reverse_concat,
      Int32.zero_add, List.append_nil]
  rw [walk, collect_of_le hcount, collectFrom_of_miss (hanswers.noting []) hslot hnoted]
  simp only [List.map_append, map_registeredEvents hcount, List.reverse_reverse, Int32.zero_add,
    map_questions hcount (Nat.succ_le_of_lt hlt), List.map_cons, List.map_nil, Event.toRecord,
    missRecord, toInt_ofNat hcount, toInt_ofNat (show answers.length ≤ countLimit by omega)]

/-- The walk fills a book just if there is a run of `source` with an answer about every slot. -/
theorem walk_ok_iff (hcount : slots.length ≤ countLimit) :
    (∃ book, (walk source slots state).result = .ok book) ↔
      ∃ answers last, answers.length = slots.length ∧
        source.Answers (Int32.ofNat slots.length) 0 state answers last := by
  constructor
  · rintro ⟨book, hbook⟩
    obtain ⟨answers, last, hanswers, hfull | ⟨slot, next, hslot, hmiss⟩⟩ :=
      source.exists_answers_of_slots slots state
    · exact ⟨answers, last, hfull, hanswers⟩
    · -- By `walk_of_miss` the result of this run is an error.
      rw [walk_of_miss hcount hanswers hslot hmiss] at hbook
      cases hbook
  · rintro ⟨answers, last, hlength, hanswers⟩
    rw [walk_of_answers hcount hlength hanswers]
    exact ⟨_, rfl⟩

/-! ## Staying in step -/

/-- `AddressSource.noting` answers like the source itself, so the walks against both end alike, tell
the same, and leave the source in the same state. -/
theorem collectFrom_noting (source : AddressSource σ) (expected : Int32) (slots : List Slot)
    (index : Int32) (book : AddressBook) (state : σ) (noted : List (Int32 × Int32)) :
    (collectFrom source.noting expected slots index book (state, noted)).result =
        (collectFrom source expected slots index book state).result ∧
      (collectFrom source.noting expected slots index book (state, noted)).events =
        (collectFrom source expected slots index book state).events ∧
      (collectFrom source.noting expected slots index book (state, noted)).source.1 =
        (collectFrom source expected slots index book state).source := by
  -- Both walks get the same answer to each question, and go on in the same state.
  induction slots generalizing index book state noted with
  | nil => exact ⟨rfl, rfl, rfl⟩
  | cons slot rest ih =>
    rcases hfirst : source index expected state with ⟨_ | address, next⟩
    case none => simp only [collectFrom, AddressSource.noting, hfirst, and_self]
    case some =>
      obtain ⟨hresult, hevents, hsource⟩ :=
        ih (index + 1) (book.record slot.name address) next ((index, expected) :: noted)
      simp only [collectFrom, AddressSource.noting, hfirst]
      exact ⟨hresult, congrArg (Event.registered index slot.name address :: ·) hevents, hsource⟩

/-- What `walk` shows is what `collect` does: noting the questions changes nothing else. -/
theorem collect_noting (source : AddressSource σ) (slots : List Slot) (state : σ) :
    (collect source slots state).result = (walk source slots state).result ∧
      (collect source slots state).events.map Event.toRecord = (walk source slots state).log ∧
      (collect source slots state).source = (collect source.noting slots (state, [])).source.1 := by
  rw [walk, collect, collect]
  cases expectedCount slots.length with
  | error failure => exact ⟨rfl, rfl, rfl⟩
  | ok expected =>
    obtain ⟨hresult, hevents, hsource⟩ := collectFrom_noting source expected slots 0 empty state []
    exact ⟨hresult.symm, congrArg (List.map Event.toRecord) hevents.symm, hsource.symm⟩

/-- The questions of a walk are `questionsBelow` some count: about the first slots of the layout, in
order and without a gap. -/
theorem exists_questions_eq (source : AddressSource σ) (slots : List Slot) (state : σ) :
    ∃ count ≤ slots.length, count ≤ countLimit ∧
      (walk source slots state).questions = questionsBelow slots count := by
  by_cases hcount : slots.length ≤ countLimit
  · obtain ⟨answers, last, hanswers, hfull | ⟨slot, next, hslot, hmiss⟩⟩ :=
      source.exists_answers_of_slots slots state
    -- One question for each answer, and one more for the miss.
    · refine ⟨slots.length, Nat.le_refl _, hcount, ?_⟩
      rw [walk_of_answers hcount hfull hanswers]
    · have hlt : answers.length < slots.length := (List.getElem?_eq_some_iff.mp hslot).1
      refine ⟨answers.length + 1, hlt, by omega, ?_⟩
      rw [walk_of_miss hcount hanswers hslot hmiss]
  · refine ⟨0, Nat.zero_le _, Nat.zero_le _, ?_⟩
    rw [walk_of_overflow (Nat.lt_of_not_le hcount)]
    rfl

/-- What `walk` comes to, whatever `source` answers and however its state changes. -/
structure StaysInStep (source : AddressSource σ) (slots : List Slot) (state : σ) : Prop where
  /-- A source that can be told the count answers about every slot, or there is a first slot without
  an answer. -/
  answers_or_miss : slots.length ≤ countLimit → ∃ answers last,
    source.Answers (Int32.ofNat slots.length) 0 state answers last ∧
      (answers.length = slots.length ∨ ∃ slot next, slots[answers.length]? = some slot ∧
        source (Int32.ofNat answers.length) (Int32.ofNat slots.length) last = (none, next))
  /-- A layout that is too long is refused, and neither the source nor the log hears of it. -/
  of_overflow : countLimit < slots.length →
    walk source slots state =
      { result := .error (.countOverflow slots.length), log := [], questions := [] }
  /-- A source that answers about every slot, be it with null addresses, is asked about each of
  them once and in order. -/
  of_answers : ∀ answers last, slots.length ≤ countLimit → answers.length = slots.length →
    source.Answers (Int32.ofNat slots.length) 0 state answers last →
    ∃ book, walk source slots state = {
      result := .ok book
      log := registrations slots answers ++ [fullRecord slots.length]
      questions := questionsBelow slots slots.length }
  /-- The first slot without an answer is the last one that the source is asked about. -/
  of_miss : ∀ answers last next slot, slots.length ≤ countLimit →
    source.Answers (Int32.ofNat slots.length) 0 state answers last →
    slots[answers.length]? = some slot →
    source (Int32.ofNat answers.length) (Int32.ofNat slots.length) last = (none, next) →
    ∃ index : Int32, index.toInt = answers.length ∧ walk source slots state = {
      result := .error (.missing index slot.name)
      log := registrations slots answers ++
        [missRecord answers.length slot.name slots.length]
      questions := questionsBelow slots (answers.length + 1) }
  /-- A book is filled just if every slot has an answer. -/
  ok_iff : slots.length ≤ countLimit →
    ((∃ book, (walk source slots state).result = .ok book) ↔
      ∃ answers last, answers.length = slots.length ∧
        source.Answers (Int32.ofNat slots.length) 0 state answers last)
  /-- The index behind the one that is asked about is counted without overflow. -/
  toInt_next : ∀ question ∈ (collect source.noting slots (state, [])).source.2,
    (question.1 + 1).toInt = question.1.toInt + 1
  /-- Filling the book without noting the questions ends alike and leaves the source alike. -/
  unnoted : (collect source slots state).result = (walk source slots state).result ∧
    (collect source slots state).events.map Event.toRecord = (walk source slots state).log ∧
    (collect source slots state).source = (collect source.noting slots (state, [])).source.1

/-- `StaysInStep` holds of every source in every state and of every layout. -/
theorem staysInStep (source : AddressSource σ) (slots : List Slot) (state : σ) :
    StaysInStep source slots state where
  answers_or_miss _ := source.exists_answers_of_slots slots state
  of_overflow hcount := walk_of_overflow hcount source state
  of_answers answers last hcount hlength hanswers :=
    ⟨_, walk_of_answers hcount hlength hanswers⟩
  of_miss answers last next slot hcount hanswers hslot hmiss := by
    have hlt : answers.length < slots.length := (List.getElem?_eq_some_iff.mp hslot).1
    exact ⟨_, toInt_ofNat (by omega), walk_of_miss hcount hanswers hslot hmiss⟩
  ok_iff := walk_ok_iff
  toInt_next question hquestion := by
    -- The question is one of the walk's, so its index is below the limit.
    obtain ⟨count, hle, hlimit, hquestions⟩ := exists_questions_eq source slots state
    have hmem : (question.1.toInt, question.2.toInt) ∈ (walk source slots state).questions :=
      List.mem_map_of_mem (List.mem_reverse.mpr hquestion)
    rw [hquestions] at hmem
    obtain ⟨k, hk, heq⟩ := List.mem_map.mp hmem
    have hlt : k < count := List.mem_range.mp hk
    -- Its index is `k`, below the limit, so the next one is `k + 1` without a wrap.
    have hindex : question.1 = Int32.ofNat k := by
      apply Int32.toInt_inj.mp
      rw [toInt_ofNat (by omega)]
      exact (congrArg Prod.fst heq).symm
    have hnext : Int32.ofNat k + 1 = Int32.ofNat (k + 1) := (Int32.ofNat_add k 1).symm
    rw [hindex, hnext, toInt_ofNat (by omega), toInt_ofNat (by omega), Int.natCast_succ]
  unnoted := collect_noting source slots state

end AddressBook

end RuntimeSlots
