import DoubleRatchet.Proofs.Conversation.Sync

/-!
# Letters and books

A letter is known by its sender, its ratchet key and its counter, and the book of its addressee knows
it by key and counter. So the book says which letters were read: all that are done, except for those
whose keys were evicted.
-/

namespace DoubleRatchet

namespace Letter

/-- The letter has the place of another one on the chains of its sender. -/
def SamePlace (letter other : Letter) : Prop :=
  letter.sender = other.sender ∧ letter.key = other.key ∧ letter.counter = other.counter

def log (books : Side → Book) (letter : Letter) : ChainLog :=
  (books letter.addressee).log letter.key

/-- Letters of one chain have one log. -/
theorem log_congr {letter other : Letter} {books : Side → Book}
    (same : other.sender = letter.sender ∧ other.key = letter.key) :
    other.log books = letter.log books := by
  unfold log addressee
  rw [same.1, same.2]

end Letter

structure Recorded (sent read : List Letter) (books : Side → Book) : Prop where
  unique : ∀ letter ∈ sent, ∀ other ∈ sent, letter.SamePlace other → letter = other
  read_once : read.Nodup
  read_sent : ∀ letter ∈ read, letter ∈ sent
  read_done : ∀ letter ∈ read, (letter.log books).Done letter.counter
  done_read : ∀ letter ∈ sent, (letter.log books).Done letter.counter →
    letter ∈ read ∨ letter.counter ∈ (letter.log books).evicted

namespace Recorded

variable {config : Config} {sent read : List Letter} {books : Side → Book} {letter : Letter}

theorem nothing (books : Side → Book) : Recorded [] [] books where
  unique _ member := nomatch member
  read_once := .nil
  read_sent _ member := nomatch member
  read_done _ member := nomatch member
  done_read _ member := nomatch member

/-- A new letter is beyond all letters of its chain, and beyond what was read of it. -/
theorem send (recorded : Recorded sent read books)
    (newest : ∀ other ∈ sent, other.sender = letter.sender → other.key = letter.key →
      other.counter < letter.counter)
    (unreached : (letter.log books).next ≤ letter.counter) :
    Recorded (sent ++ [letter]) read books := by
  constructor
  case unique =>
    intro first isFirst second isSecond ⟨sameSender, sameKey, sameCounter⟩
    rcases List.mem_append.mp isFirst with oldFirst | newFirst
    · rcases List.mem_append.mp isSecond with oldSecond | newSecond
      · exact recorded.unique first oldFirst second oldSecond ⟨sameSender, sameKey, sameCounter⟩
      · rw [List.mem_singleton.mp newSecond] at sameSender sameKey sameCounter
        have before := newest first oldFirst sameSender sameKey
        omega
    · rcases List.mem_append.mp isSecond with oldSecond | newSecond
      · rw [List.mem_singleton.mp newFirst] at sameSender sameKey sameCounter
        have before := newest second oldSecond sameSender.symm sameKey.symm
        omega
      · rw [List.mem_singleton.mp newFirst, List.mem_singleton.mp newSecond]
  case read_once => exact recorded.read_once
  case read_sent =>
    intro other isRead
    exact List.mem_append_left _ (recorded.read_sent other isRead)
  case read_done => exact recorded.read_done
  case done_read =>
    intro other isSent done
    rcases List.mem_append.mp isSent with old | new
    · exact recorded.done_read other old done
    · rw [List.mem_singleton.mp new] at done
      have passed := done.1
      omega

/-- The log of a letter once the addressee of another letter has read that letter. -/
theorem log_reading (config : Config) (letter other : Letter) (books : Side → Book) :
    other.log (letter.addressee.update
        ((books letter.addressee).reading config letter.key letter.counter) books) =
      if other.sender = letter.sender ∧ other.key = letter.key then
        (letter.log books).read config letter.counter
      else other.log books := by
  unfold Letter.log
  by_cases sameSender : other.sender = letter.sender
  · have sameAddressee : other.addressee = letter.addressee := congrArg Side.other sameSender
    rw [sameAddressee, Side.update_self, Book.log_reading]
    simp only [sameSender, true_and]
  · have otherSide : other.addressee = letter.addressee.other := by
      rcases Side.eq_or_eq_other other.sender letter.sender with same | opposite
      · exact absurd same sameSender
      · exact congrArg Side.other opposite
    rw [otherSide, Side.update_other]
    simp only [sameSender, false_and, if_false]

theorem deliver (recorded : Recorded sent read books) (isSent : letter ∈ sent)
    (notDone : ¬(letter.log books).Done letter.counter) (valid : (letter.log books).Valid config) :
    Recorded sent (read ++ [letter]) (letter.addressee.update
      ((books letter.addressee).reading config letter.key letter.counter) books) := by
  constructor
  case unique => exact recorded.unique
  case read_once =>
    refine List.nodup_append.mpr ⟨recorded.read_once, List.pairwise_singleton _ _, ?_⟩
    intro old isOld new isNew same
    rw [same, List.mem_singleton.mp isNew] at isOld
    exact notDone (recorded.read_done letter isOld)
  case read_sent =>
    intro other isRead
    rcases List.mem_append.mp isRead with old | new
    · exact recorded.read_sent other old
    · rw [List.mem_singleton.mp new]
      exact isSent
  case read_done =>
    intro other isRead
    rw [log_reading]
    rcases List.mem_append.mp isRead with old | new
    · have done := recorded.read_done other old
      split
      · rename_i same
        rw [Letter.log_congr same] at done
        exact done.read
      · exact done
    · rw [List.mem_singleton.mp new, if_pos ⟨rfl, rfl⟩]
      exact ChainLog.done_read valid
  case done_read =>
    intro other otherSent done
    rw [log_reading] at done ⊢
    split at done
    · rename_i same
      rw [if_pos same]
      have sameLog : other.log books = letter.log books := Letter.log_congr same
      rcases ChainLog.done_of_read done with sameCounter | before | evicted
      · have isLetter := recorded.unique other otherSent letter isSent
          ⟨same.1, same.2, sameCounter⟩
        rw [isLetter]
        exact .inl (List.mem_append_right _ List.mem_cons_self)
      · rw [← sameLog] at before
        rcases recorded.done_read other otherSent before with wasRead | evicted
        · exact .inl (List.mem_append_left _ wasRead)
        · rw [sameLog] at evicted
          exact .inr (ChainLog.evicted_read evicted)
      · exact .inr evicted
    · rename_i different
      rw [if_neg different]
      exact (recorded.done_read other otherSent done).imp_left (List.mem_append_left _)

/-- A letter that was not read and whose keys were not evicted can be read, unless it is too far
ahead. -/
theorem grants (recorded : Recorded sent read books) (isSent : letter ∈ sent)
    (unread : letter ∉ read) (near : letter.counter ≤
      (letter.log books).next + config.maxForwardJumps.toNat)
    (notEvicted : letter.counter ∉ (letter.log books).evicted) :
    (letter.log books).Grants config letter.counter := by
  rcases Nat.lt_or_ge letter.counter (letter.log books).next with behind | ahead
  · by_cases waits : letter.counter ∈ (letter.log books).waiting
    · exact .inl ⟨behind, waits⟩
    · rcases recorded.done_read letter isSent ⟨behind, waits⟩ with isRead | evicted
      · exact absurd isRead unread
      · exact absurd evicted notEvicted
  · exact .inr ⟨ahead, near⟩

end Recorded
end DoubleRatchet
