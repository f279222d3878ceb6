import Crowdlending.Proofs.Platform.Login

/-!
# Which passwords log in

What an account is registered with stays with it: the hash of one password, at one cost and with one
salt. A login compares digests. So the passwords that get in are those that the digest does not tell
from the registered one, and those are all that begin with the same 72 bytes. The policy asks for a
least length and for no greatest one, so nobody is told that the rest does not count.
-/
namespace Crowdlending.Platform
open Token Account Crypto

section Password
variable {s : Setup} {call : Call} {caller : Option Claims} {r : RegisterRequest}
  {reasons : List String}

/-- What is stored at the registration is stored ever after, under the id that was next. -/
theorem stores_of_run {p : Platform} (hcountry : '.' ∉ s.countryCode.toList)
    (hbefore : p.users.Unambiguous)
    (h : (p.register s call caller r).result = .ok ⟨true, reasons⟩) (since : List Action) :
    let after := (p.register s call caller r).platform.run s since
    after.users.Unambiguous ∧
      ∀ e ∈ after.users.entries, e.user.id = p.users.lastId + 1 → Stores s call.salt r e.user := by
  intro after
  obtain ⟨u, hentries, hid, -, hstores⟩ := stores_of_register h
  have husers : after.users.Unambiguous :=
    unambiguous_run hcountry (unambiguous_register hcountry hbefore call caller r) since
  refine ⟨husers, fun e he hsame => ?_⟩
  obtain ⟨e', he', hlater⟩ : ∃ e' ∈ after.users.entries,
      Entry.Continues ⟨u, caller.map Claims.userId, none⟩ e' := by
    refine (continues_users_run s _ since).exists_mem ?_
    rw [hentries]
    exact List.mem_append_right _ (List.mem_singleton_self _)
  have heq : e'.user.id = e.user.id := by
    rw [hsame, hlater.user]
    exact hid
  obtain rfl := husers.eq_of_id he' he heq
  exact hstores.continues hlater

/-- Whatever happened before the registration and since: while the account is active, a login by
any identifier that it holds gets in with a password that keys the cipher as the registered one
does, and with no other one. Passwords without the character NUL do so just if they have the same
first 72 bytes, so if both are no longer than that, with the registered one alone. It is assumed of
these two passwords that the digest tells them apart. -/
theorem login_by_password (hcountry : '.' ∉ s.countryCode.toList) (capacity : ℕ)
    (actions since : List Action)
    (hsized : Bcrypt.IsSized s.hashCore s.hashCost call.salt r.password)
    (h : (((start capacity).run s actions).register s call caller r).result =
      .ok ⟨true, reasons⟩)
    {q : LoginRequest} (hidentifier : Text.trimChars q.identifier.toList ≠ [])
    (hpassword : checkPassword q.password = .ok ())
    (htells : Bcrypt.TellsApart s.hashCore s.hashCost call.salt q.password r.password)
    (later : Call) :
    let before := (start capacity).run s actions
    let after := (before.register s call caller r).platform.run s since
    ∀ e ∈ after.users.entries, e.user.id = before.users.lastId + 1 → e.isActive = true →
      e.holds (loginIdentifier s.countryCode (Text.trim q.identifier)) = true →
      (after.login s later q).result =
        (if Bcrypt.keyStream q.password = Bcrypt.keyStream r.password then
          (after.issuePair s later.now (.ofUser e.user) q.rememberMe).result
        else .error (.failure .credentials)) ∧
      (Bcrypt.NulFree q.password → Bcrypt.NulFree r.password →
        (Bcrypt.keyStream q.password = Bcrypt.keyStream r.password ↔
          (Text.utf8 q.password).take 72 = (Text.utf8 r.password).take 72)) ∧
      (Bcrypt.NulFree q.password → Bcrypt.NulFree r.password →
        (Text.utf8 q.password).length ≤ 72 → (Text.utf8 r.password).length ≤ 72 →
        q.password ≠ r.password →
          (after.login s later q).result = .error (.failure .credentials)) := by
  intro before after e he hid hactive hholds
  have hbefore : before.users.Unambiguous :=
    unambiguous_run hcountry Directory.unambiguous_empty actions
  obtain ⟨husers, hstores⟩ := stores_of_run hcountry hbefore h since
  have hresult := result_login husers he hactive (hstores e he hid) hsized hidentifier hholds
    hpassword later
  rw [if_congr htells rfl rfl] at hresult
  refine ⟨hresult, Bcrypt.keyStream_eq_iff, fun hfree hfree' hshort hshort' hne => ?_⟩
  rw [hresult, if_neg (Bcrypt.keyStream_ne_of_short hfree hfree' hshort hshort' hne)]

end Password

/-- The last digit is another one: the login is refused. -/
theorem refused_of_last_digit :
    let s := coreSetup knownCore
    let r := requestBy "first@example.com" "0811000001"
    let after := ((start 4).register s early none r).platform
    ((start 4).register s early none r).result = .ok ⟨true, []⟩ ∧
      Bcrypt.TellsApart s.hashCore s.hashCost early.salt "Secret-124" "Secret-123" ∧
      (after.login s late ⟨"first@example.com", "Secret-124", false⟩).result =
        .error (.failure .credentials) := by
  intro s r after
  have hcountry : '.' ∉ s.countryCode.toList := by decide +kernel
  have hregister : ((start 4).register s early none r).result = .ok ⟨true, []⟩ := by decide +kernel
  have hstream : Bcrypt.keyStream "Secret-124" ≠ Bcrypt.keyStream "Secret-123" := by decide +kernel
  have hdigest : Bcrypt.digest s.hashCore s.hashCost early.salt "Secret-124" ≠
      Bcrypt.digest s.hashCore s.hashCost early.salt "Secret-123" := by
    decide +kernel
  have htells : Bcrypt.TellsApart s.hashCore s.hashCost early.salt "Secret-124" "Secret-123" :=
    iff_of_false hdigest hstream
  obtain ⟨e, he, hid, hactive, hholds⟩ : ∃ e ∈ after.users.entries, e.user.id = 0 + 1 ∧
      e.isActive = true ∧
        e.holds (loginIdentifier s.countryCode (Text.trim "first@example.com")) = true := by
    decide +kernel
  obtain ⟨hlogin, -⟩ := login_by_password (q := ⟨"first@example.com", "Secret-124", false⟩) hcountry
    4 [] [] ⟨by decide, by decide +kernel⟩ hregister (by decide +kernel) (by decide +kernel) htells
    late e he hid hactive hholds
  exact ⟨hregister, htells, hlogin.trans (if_neg hstream)⟩

/-- A password of 72 characters and one more. -/
def longPassword (last : Char) : String :=
  String.ofList ("Secret-1".toList ++ List.replicate 64 'n' ++ [last])

/-- Whoever registered with a password of 73 characters gets in with another last one, for the
digest does not know it. -/
theorem accepted_of_other_password :
    let s := coreSetup Bcrypt.core
    let r : RegisterRequest := ⟨"Name", "first@example.com", "0811000001", longPassword 'a', 0⟩
    longPassword 'b' ≠ r.password ∧ checkPassword (longPassword 'b') = .ok () ∧
      ((start 4).register s early none r).result = .ok ⟨true, []⟩ ∧
      ∃ pair, (((start 4).register s early none r).platform.login s late
        ⟨"first@example.com", longPassword 'b', false⟩).result = .ok pair := by
  intro s r
  obtain ⟨hkeyed, hlifetimes, hdates⟩ := keyed_coreSetup Bcrypt.core
  have hr : IsRegistrable r :=
    ⟨by decide +kernel, by decide +kernel, by decide +kernel, by decide +kernel⟩
  have hother : checkPassword (longPassword 'b') = .ok () := by decide +kernel
  have hregister : ((start 4).register s early none r).result = .ok ⟨true, []⟩ :=
    result_register_start (by decide) 4 hr
  obtain ⟨u, hentries, -, hactive, hstores⟩ := stores_of_register hregister
  have husers : ((start 4).register s early none r).platform.users.Unambiguous :=
    unambiguous_register (by decide +kernel) Directory.unambiguous_empty early none r
  obtain ⟨e, he, rfl⟩ : ∃ e ∈ ((start 4).register s early none r).platform.users.entries,
      e.user = u := by
    rw [hentries]
    exact ⟨_, List.mem_singleton_self _, rfl⟩
  have hsame : Bcrypt.keyOf (longPassword 'b') = Bcrypt.keyOf r.password := by decide +kernel
  have hdigest : Bcrypt.digest s.hashCore s.hashCost early.salt (longPassword 'b') =
      Bcrypt.digest s.hashCore s.hashCost early.salt r.password :=
    Bcrypt.digest_core_of_keyStream (Bcrypt.keyStream_of_keyOf hsame) s.hashCost early.salt
  have hsized : Bcrypt.IsSized s.hashCore s.hashCost early.salt r.password := by
    refine ⟨by decide, ?_⟩
    rw [show s.hashCore = Bcrypt.core from rfl, Bcrypt.length_core]
    decide
  have hresult := result_login (q := ⟨r.email, longPassword 'b', false⟩) husers he
    (by simp [Entry.isActive, hactive]) hstores hsized hstores.holds_email.1 hstores.holds_email.2
    hother late
  rw [if_pos hdigest] at hresult
  obtain ⟨pair, hpair, -⟩ := logsIn_of_result hkeyed hlifetimes hdates hresult
  exact ⟨by decide +kernel, hother, hregister, pair, hpair⟩

end Crowdlending.Platform
