import DoubleRatchet.Proofs.Session.Opener
import DoubleRatchet.Proofs.Session.Receive

/-!
# The header of a first message and its inner message

The header of a first message joins a session, but any session of the address may be the one that
opens the inner message. Header and inner message belong together exactly as far as no session with
another base key opens the inner message.
-/

namespace DoubleRatchet

variable {suite : Suite} {config : Config} {random rest : Randomness} {plaintext : Bytes}

/-- The state decrypts the message, with some fresh key pair if it takes a turn. -/
def SessionState.Opens (suite : Suite) (config : Config) (message : SignalMessage)
    (state : SessionState) : Prop :=
  ∃ random plaintext final rest,
    decrypt suite config message state random = ⟨.ok plaintext, final, rest⟩

namespace Session

variable {address : Address} {message : PreKeyMessage} {receiver : Receiver} {store after : Store}

/-- What accepting a first message adds to a record: nothing, or one state with the base key of the
header if the record has no such session yet. -/
theorem joined_of_accept {record joined : SessionRecord} {used : Option UInt32}
    (accepted : acceptPreKeyMessage suite config address record message store random =
      ⟨.ok (used, joined), after, rest⟩) :
    (∀ state ∈ joined.states, state ∈ record.states ∨
      record.hasSession message.version message.baseKey = false ∧
        state.initiatorBaseKey = some message.baseKey) ∧
    (used = none ∨ record.hasSession message.version message.baseKey = false ∧
      used = message.preKeyId) := by
  obtain ⟨_, _, ⟨_, unused, same, _⟩ | ⟨hasNot, joining⟩⟩ := accept_eq_ok accepted
  · rw [same]
    exact ⟨fun state member => .inl member, .inl unused⟩
  · obtain ⟨_, signedPreKey, oneTime, drawn, state, _, pair, _, rfl⟩ := join_eq_ok joining
    refine ⟨?_, (used_of_oneTimePair pair).imp_right fun isUsed => ⟨hasNot, isUsed⟩⟩
    intro other member
    rcases mem_states_makeRoom member with rfl | older
    · exact .inr ⟨hasNot, rfl⟩
    · exact .inl older

/-- The inner message of a first message is opened by one state of the record that is searched, and
what this state is afterwards becomes current. It has the base key of the header, or the record held it
before; so the current session has the base key of the header if no session that the record held opens
the inner message under another one. No prekey is removed but the one that the header names, and only
if the header announces a session that the record did not have. -/
theorem first_message_opener
    (read : decryptPreKeyMessage suite config address message receiver store random =
      ⟨.ok plaintext, after, rest⟩) :
    let record := store.session address
    let current := (after.session address).current
    let opener := opener suite config address (.preKey message) store random
    Opened suite config address (.preKey message) store random plaintext after ∧
      (∃ drawn left, SessionState.decrypt suite config message.message opener drawn =
        ⟨.ok plaintext, current, left⟩) ∧
      current.initiatorBaseKey = opener.initiatorBaseKey ∧
      (opener ∈ record.states ∨ record.hasSession message.version message.baseKey = false ∧
        opener.initiatorBaseKey = some message.baseKey) ∧
      ((∀ other ∈ record.states, other.Opens suite config message.message →
          other.initiatorBaseKey = some message.baseKey) →
        current.initiatorBaseKey = some message.baseKey) ∧
      (after.preKeys = store.preKeys ∨
        record.hasSession message.version message.baseKey = false ∧
          ∃ id, message.preKeyId = some id ∧ after.preKeys = store.preKeys.erase id) := by
  intro record current opener
  have opened : Opened suite config address (.preKey message) store random plaintext after :=
    opened_of_decrypt read
  obtain ⟨index, start, final, left, found, decrypted, stored⟩ := opened.opened
  have current_eq : current = final := by
    change (after.session address).current = final
    rw [stored, SessionRecord.current_answered]
  obtain ⟨used, joined, pinned, drawn, _, accepted, _, _, after_eq⟩ :=
    decryptPreKeyMessage_eq_ok read
  obtain ⟨added, isUsed⟩ := joined_of_accept accepted
  rw [prepared_of_accept accepted] at found
  have whose := added opener (List.mem_of_getElem? found)
  have same : current.initiatorBaseKey = opener.initiatorBaseKey := by
    rw [current_eq]
    exact SessionState.initiatorBaseKey_of_decrypt decrypted
  refine ⟨opened, ⟨start, left, current_eq ▸ decrypted⟩, same, whose, ?_, ?_⟩
  · intro alone
    rw [same]
    rcases whose with older | ⟨_, new⟩
    · exact alone opener older ⟨start, plaintext, final, left, decrypted⟩
    · exact new
  · obtain ⟨_, rfl, _⟩ := accept_eq_ok accepted
    rw [after_eq]
    rcases isUsed with rfl | ⟨hasNot, rfl⟩
    · exact .inl rfl
    · cases named : message.preKeyId with
      | none => exact .inl rfl
      | some id => exact .inr ⟨hasNot, id, rfl, rfl⟩

/-- The inner message of the caller's second call under the header of a session that nobody began. -/
def strayCall : PreKeyMessage :=
  .make 3 2 (some 6) 7 (KeyPair.additive 9).publicKey (KeyPair.additive 4).publicKey
    CiphertextMessage.secondCall.inner

/-- A first message can be read by the session that made its inner message and not by the one that
its header announces; it then takes a prekey that its inner message knows nothing about. -/
theorem stray_call_takes_prekey :
    Reachable Suite.additive {} .called ∧
      let outcome := decryptPreKeyMessage Suite.additive {} .caller strayCall Receiver.accept .called
        (.repeated 32)
      outcome.result.toOption = some [4, 5] ∧
        (outcome.state.session .caller).current.initiatorBaseKey =
          (Store.caller.session .newcomer).current.initiatorBaseKey ∧
        (outcome.state.session .caller).current.initiatorBaseKey ≠ some strayCall.baseKey ∧
        Store.called.preKeys.contains 6 = true ∧ outcome.state.preKeys.contains 6 = false :=
  ⟨reachable_called, by decide +kernel⟩

theorem stray_call_opener :
    let opener := opener Suite.additive {} .caller (.preKey strayCall) .called (.repeated 32)
    opener ∈ (Store.called.session .caller).states ∧
      ∃ drawn final left, SessionState.decrypt Suite.additive {} strayCall.message opener drawn =
        ⟨.ok [4, 5], final, left⟩ := by
  intro opener
  have isRead : (decryptPreKeyMessage Suite.additive {} .caller strayCall Receiver.accept .called
      (.repeated 32)).result.toOption = some [4, 5] := by decide +kernel
  obtain ⟨_, ⟨drawn, left, decrypted⟩, same, whose, _⟩ :=
    first_message_opener (Outcome.eq_of_toOption isRead)
  refine ⟨whose.resolve_right fun ⟨_, new⟩ => ?_, drawn, _, left, decrypted⟩
  rw [new] at same
  revert same
  decide +kernel

end Session
end DoubleRatchet
