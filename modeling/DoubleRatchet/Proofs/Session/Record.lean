import DoubleRatchet.Proofs.Step
import DoubleRatchet.Session.Record
import Mathlib.Data.List.Perm.Basic

/-!
# Which state of a record answers

A record gives a message to its states one after the other. The first that takes it answers, and
then leads the record; this module says which one that is and where the others go.
-/

namespace DoubleRatchet

variable {suite : Suite} {config : Config} {random rest : Randomness}

namespace SessionRecord

variable {record final : SessionRecord} {message : SignalMessage} {plaintext : Bytes}

/-- The record after one of its states has answered. -/
def answered (config : Config) (answer : Answer) (record : SessionRecord) : SessionRecord :=
  match answer.index with
  | 0 => record.setCurrent answer.state
  | position + 1 => record.promoteArchived config position answer.state

theorem current_answered (answer : Answer) (record : SessionRecord) :
    (record.answered config answer).current = answer.state := by
  unfold answered
  split <;> rfl

/-- The attempt of one state, and that no state before it took the message or ended the search. -/
structure Answers (suite : Suite) (config : Config) (message : SignalMessage)
    (states : List SessionState) (position : Nat) (state : SessionState) (answer : Answer)
    (rest : Randomness) : Prop where
  found : states[position]? = some state
  succeeded : ∃ random, SessionState.decrypt suite config message state random =
    ⟨.ok answer.plaintext, answer.state, rest⟩
  earlier : ∀ before other, before < position → states[before]? = some other →
    ∃ failure random, (SessionState.decrypt suite config message other random).result =
      .error failure ∧ isFinal failure = false

theorem firstAnswer_eq_ok {states : List SessionState} {start : Nat} {answer : Answer}
    (answering : firstAnswer suite config message start states random = (.ok answer, rest)) :
    ∃ position state, answer.index = start + position ∧
      Answers suite config message states position state answer rest := by
  induction states generalizing start random with
  | nil => cases answering
  | cons first others ih =>
      unfold firstAnswer at answering
      cases attempt : SessionState.decrypt suite config message first random with
      | mk result final drawn =>
          rw [attempt] at answering
          cases result with
          | ok plaintext =>
              cases answering
              refine ⟨0, first, rfl, rfl, ⟨random, attempt⟩, ?_⟩
              intro before _ impossible
              exact absurd impossible (Nat.not_lt_zero before)
          | error failure =>
              dsimp only at answering
              cases ending : isFinal failure with
              | true =>
                  rw [ending] at answering
                  cases answering
              | false =>
                  simp only [ending, Bool.false_eq_true, if_false] at answering
                  obtain ⟨position, state, index, found, succeeded, earlier⟩ := ih answering
                  refine ⟨position + 1, state, by omega, found, succeeded, ?_⟩
                  intro before other bound at_before
                  cases before with
                  | zero =>
                      cases at_before
                      exact ⟨failure, random, by rw [attempt], ending⟩
                  | succ before => exact earlier before other (by omega) at_before

/-- A record decrypts by its first answer, and the state that answered becomes current. -/
theorem decrypt_eq_ok
    (succeeded : decrypt suite config message record random = ⟨.ok plaintext, final, rest⟩) :
    ∃ state answer, firstAnswer suite config message 0 record.states random = (.ok answer, rest) ∧
      Answers suite config message record.states answer.index state answer rest ∧
      answer.plaintext = plaintext ∧ final = record.answered config answer := by
  unfold decrypt at succeeded
  obtain ⟨_, _, _, got, searched⟩ := Step.bind_eq_ok.mp succeeded
  cases got
  obtain ⟨result, middle, drawn, search, matched⟩ := Step.bind_eq_ok.mp searched
  rw [Step.draw_run] at search
  cases search
  cases outcome : firstAnswer suite config message 0 record.states random with
  | mk result drawn =>
      rw [outcome] at matched
      obtain ⟨answer, _, _, isAnswer, stored⟩ := Step.bind_eq_ok.mp matched
      cases isAnswer
      obtain ⟨position, state, index, answers⟩ := firstAnswer_eq_ok outcome
      rcases answer with ⟨answerIndex, answerState, answerText⟩
      obtain rfl : answerIndex = position := by simpa using index
      refine ⟨state, ⟨answerIndex, answerState, answerText⟩, ?_⟩
      cases answerIndex with
      | zero =>
          cases stored
          exact ⟨rfl, answers, rfl, rfl⟩
      | succ position =>
          cases stored
          exact ⟨rfl, answers, rfl, rfl⟩

/-! ## Where the states go -/

theorem getElem?_of_cut {front whole : List SessionState} (cut : front <+: whole) {position : Nat}
    {state : SessionState} (found : front[position]? = some state) :
    whole[position]? = some state := by
  obtain ⟨dropped, rfl⟩ := cut
  rw [List.getElem?_append_left (List.getElem?_eq_some_iff.mp found).1]
  exact found

/-- Where the state at a position is once the state at `index` has answered. -/
def afterAnswer (index position : Nat) : Nat :=
  if position = index then 0 else if position < index then position + 1 else position

/-- The position of the state that answers a message. -/
def answerIndex (suite : Suite) (config : Config) (message : SignalMessage)
    (record : SessionRecord) (random : Randomness) : Nat :=
  match (firstAnswer suite config message 0 record.states random).1 with
  | .ok answer => answer.index
  | .error _ => 0

theorem perm_cons_eraseIdx {index : Nat} {state : SessionState} {states : List SessionState}
    (found : states[index]? = some state) : (state :: states.eraseIdx index).Perm states := by
  obtain ⟨bound, at_index⟩ := List.getElem?_eq_some_iff.mp found
  rw [← at_index]
  exact List.getElem_cons_eraseIdx_perm bound

/-- The state that answered leads the others, which keep their order up to the limit. -/
theorem states_answered_cut (config : Config) (answer : Answer) (record : SessionRecord) :
    (record.answered config answer).states <+:
      answer.state :: record.states.eraseIdx answer.index := by
  unfold answered
  cases answer.index with
  | zero => exact List.prefix_refl _
  | succ position => exact (List.prefix_cons_inj _).mpr (List.take_prefix _ _)

theorem mem_answered {answer : Answer} {state : SessionState}
    (member : state ∈ (record.answered config answer).states) :
    state = answer.state ∨ state ∈ record.states := by
  have inAll := (states_answered_cut config answer record).subset member
  exact (List.mem_cons.mp inAll).imp_right List.mem_of_mem_eraseIdx

/-- Where base keys differ, they differ after one state has answered and kept its own. -/
theorem nodup_answered {answer : Answer} {state : SessionState}
    (distinct : (record.states.map SessionState.initiatorBaseKey).Nodup)
    (found : record.states[answer.index]? = some state)
    (same : answer.state.initiatorBaseKey = state.initiatorBaseKey) (config : Config) :
    ((record.answered config answer).states.map SessionState.initiatorBaseKey).Nodup := by
  have permuted := (perm_cons_eraseIdx found).map SessionState.initiatorBaseKey
  refine List.Nodup.sublist ((states_answered_cut config answer record).sublist.map _) ?_
  rw [List.map_cons, same, ← List.map_cons]
  exact permuted.nodup_iff.mpr distinct

theorem getElem?_answered {answer : Answer} {position : Nat} {state : SessionState}
    (found : (record.answered config answer).states[afterAnswer answer.index position]? =
      some state) :
    position = answer.index ∧ state = answer.state ∨ record.states[position]? = some state := by
  have inAll : (answer.state :: record.states.eraseIdx answer.index)[
      afterAnswer answer.index position]? = some state :=
    getElem?_of_cut (states_answered_cut config answer record) found
  unfold afterAnswer at inAll
  by_cases same : position = answer.index
  · rw [if_pos same] at inAll
    exact .inl ⟨same, (Option.some.inj inAll).symm⟩
  · rw [if_neg same] at inAll
    right
    by_cases before : position < answer.index
    · rw [if_pos before, List.getElem?_cons_succ, List.getElem?_eraseIdx, if_pos before] at inAll
      exact inAll
    · rw [if_neg before] at inAll
      cases position with
      | zero => omega
      | succ position =>
          rw [List.getElem?_cons_succ, List.getElem?_eraseIdx, if_neg (by omega)] at inAll
          exact inAll

end SessionRecord

end DoubleRatchet
