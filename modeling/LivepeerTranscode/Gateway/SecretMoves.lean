import LivepeerTranscode.Gateway.RowMoves

/-!
# What a statement does to one secret row

`SecretChange` lists the changes of the secrets of an operation, beside the changes of its
row. Secrets come with an insertion or from the holder of the claim; they go with the
terminal statements and with `deleteSecrets`.
-/

namespace LivepeerTranscode.Gateway
open Checked
set_option autoImplicit false

inductive SecretChange (cipher : OperationSecretCipher) (exec : Execution) (call : RepoCall)
    (db db' : Database) (id : String) : Prop where
  | same : db'.secrets.lookup id = db.secrets.lookup id →
      (call.ends id → db'.operations.lookup id = db.operations.lookup id) →
      SecretChange cipher exec call db db' id
  | ended : call.ends id → db'.secrets.lookup id = none → SecretChange cipher exec call db db' id
  | deleted {claim : PaidOperationClaim} : call = .deleteSecrets id claim →
      db'.secrets.lookup id = none → SecretChange cipher exec call db db' id
  | put {claim : PaidOperationClaim} {value : PaidOperationSecrets} {secret : SecretRow} :
      call = .putSecrets id claim value → db.holds id claim exec.now = true →
      db'.secrets.lookup id = some secret → secret.encrypted = cipher.encrypt exec.entropy id value →
      SecretChange cipher exec call db db' id
  | created {value : NewPaidOperation} {secrets : PaidOperationSecrets} {owner : String} {lease : Date}
      {secret : SecretRow} : call = .insertWithSecrets value secrets owner lease → value.id = id →
      db.operations.lookup id = none → db'.secrets.lookup id = some secret →
      secret.encrypted = cipher.encrypt exec.entropy id secrets →
      SecretChange cipher exec call db db' id

section
variable {pg : Postgres} {cipher : OperationSecretCipher} {exec : Execution} {call : RepoCall}
  {db db' : Database} {id : String}

theorem RepoCall.ends.one {other : String} (h : call.ends id) (hother : call.ends other) : id = other := by
  cases call with
  | recordTerminal | recordLiveTerminal | recordVodTerminal => exact h.symm.trans hother
  | _ => exact h.elim

theorem RowCreated.not_ends {row : OperationRow} {target : String} (h : RowCreated pg exec target call row) :
    ¬ call.ends id := by
  cases h <;> exact not_false

theorem Writes.secretChange (h : Writes pg exec cipher call db db') (id : String) :
    SecretChange cipher exec call db db' id := by
  cases h with
  | nothing hsame => exact .same (by rw [hsame]) fun _ => by rw [hsame]
  | @row target _ _ _ _ _ hsecrets =>
    rcases hsecrets with ⟨hends, hsecrets⟩ | ⟨hends, hsecrets⟩
    · by_cases hid : id = target
      · subst hid
        exact .ended hends (by rw [hsecrets, AList.lookup_erase])
      · exact .same (by rw [hsecrets, AList.lookup_erase_ne hid]) fun hcall => absurd (hcall.one hends) hid
    · exact .same (by rw [hsecrets]) fun hcall => absurd hcall (hends id)
  | rows _ hends _ hsecrets => exact .same (by rw [hsecrets]) fun hcall => absurd hcall (hends id)
  | @create target _ hnone hcreated _ hsecrets =>
    rcases hsecrets with hsecrets | ⟨value, secrets, owner, lease, secret, hcall, hvalue, hencrypted, hsecrets⟩
    · exact .same (by rw [hsecrets]) fun hcall => absurd hcall hcreated.not_ends
    · by_cases hid : id = target
      · subst hid
        exact .created hcall hvalue hnone (by rw [hsecrets, AList.lookup_insert]) hencrypted
      · exact .same (by rw [hsecrets, AList.lookup_insert_ne hid]) fun hcall => absurd hcall hcreated.not_ends
  | @put target _ _ _ hcall hholds hencrypted hdb =>
    by_cases hid : id = target
    · subst hid
      exact .put hcall hholds (by rw [hdb, AList.lookup_insert]) hencrypted
    · exact .same (by rw [hdb, AList.lookup_insert_ne hid]) fun _ => by rw [hdb]
  | @delete target _ hcall _ hdb =>
    by_cases hid : id = target
    · subst hid
      exact .deleted hcall (by rw [hdb, AList.lookup_erase])
    · exact .same (by rw [hdb, AList.lookup_erase_ne hid]) fun _ => by rw [hdb]

theorem run_secret (pg : Postgres) (cipher : OperationSecretCipher) (exec : Execution) (db : Database)
    (call : RepoCall) (id : String) :
    SecretChange cipher exec call db (call.run pg cipher exec db).2 id := by
  rcases run_cases pg cipher exec db call with hsame | ⟨answer, hanswer⟩
  · exact .same (by rw [hsame]) fun _ => by rw [hsame]
  · exact (statement_writes hanswer).secretChange id

end

end LivepeerTranscode.Gateway
