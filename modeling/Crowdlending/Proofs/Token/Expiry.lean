import Crowdlending.Proofs.Token.Genuine

/-!
# Tokens and the clock

The clock comes into the verdict on a token in one place: its expiry is compared with the time, and
the leeway is granted. So a token that is accepted once is accepted at every time before the leeway
is over and at none after, and what it states tells when that is. In the seconds of the leeway an
expired token is still accepted.
-/
namespace Crowdlending.Token
open Json Crypto

/-- The claims have expired, but not by more than the leeway. -/
def Claims.InLeeway (c : Claims) (now : Int) : Prop := c.expiry < now ∧ now ≤ c.expiry + 60

section Clock
variable {scheme : SignatureScheme} {find : String → Except Failure PublicKey} {issuers : Issuers}
  {now : Int} {expected : Kind} {token : String} {c : Claims}

/-- Claims that passed once are judged by the clock alone. -/
theorem judge_at {payload : Doc} (h : judge issuers now expected payload = .ok c) (now' : Int) :
    judge issuers now' expected payload =
      if Counts now' c.expiry then .ok c else .error .expired := by
  obtain ⟨hclaims, haudience, hexpiry, -, hissuer, hkind⟩ := judge_eq_ok h
  unfold judge
  rw [hclaims, haudience]
  simp only [bind, Except.bind, if_neg hexpiry, hissuer, hkind, ne_eq, not_true_eq_false, if_false,
    Bool.false_eq_true, ite_not]
  rfl

theorem verify_at (h : verify scheme find issuers now expected token = .ok c) (now' : Int) :
    verify scheme find issuers now' expected token =
      if 60 ≤ now' ∧ now' ≤ c.expiry + 60 then .ok c else .error (.token .expired) := by
  obtain ⟨kid, key, hrequested, hfind, hbyKey⟩ := verify_eq_ok h
  obtain ⟨parts, payload, hsigned, hjudge⟩ := verifyByKey_eq_ok hbyKey
  simp only [verify, hrequested, hfind, verifyByKey_of_signedUnder hsigned, judge_at hjudge now']
  have hwindow : Counts now' c.expiry ↔ 60 ≤ now' ∧ now' ≤ c.expiry + 60 := by
    unfold Counts leeway
    omega
  rw [if_congr hwindow rfl rfl]
  by_cases hcounts : 60 ≤ now' ∧ now' ≤ c.expiry + 60
  · rw [if_pos hcounts, if_pos hcounts]
  · rw [if_neg hcounts, if_neg hcounts]

theorem counts_of_verify (h : verify scheme find issuers now expected token = .ok c) :
    60 ≤ now ∧ now ≤ c.expiry + 60 := by
  have hnow := verify_at h now
  by_contra hlate
  rw [h, if_neg hlate] at hnow
  cases hnow

end Clock

/-- A token that is accepted has not expired, or the clock is in the leeway. Presented to the same
keys at another time, it is accepted until the leeway is over; then no keys get it accepted. A
cached set is a source of keys like any other. -/
theorem unexpired_of_verify {scheme : SignatureScheme} {find : String → Except Failure PublicKey}
    {issuers : Issuers} {now : Int} {expected : Kind} {token : String} {c : Claims}
    (h : verify scheme find issuers now expected token = .ok c) :
    (¬c.InLeeway now → now ≤ c.expiry) ∧
      (∀ now', verify scheme find issuers now' expected token =
        if 60 ≤ now' ∧ now' ≤ c.expiry + 60 then .ok c else .error (.token .expired)) ∧
      (∀ scheme' find' issuers' now' expected' c', c.expiry + 60 < now' →
        verify scheme' find' issuers' now' expected' token ≠ .ok c') ∧
      ∀ (cache : KeyCache) (ms : ℕ) (reply : Reply),
        (cache.verify scheme issuers ms reply now expected token).result =
          verify scheme (fun kid => (cache.find ms reply kid).result) issuers now expected
            token := by
  refine ⟨fun hleeway => ?_, verify_at h,
    fun scheme' find' issuers' now' expected' c' hover h' => ?_,
    fun cache ms reply => cache.verify_result scheme issuers expected token ms reply now⟩
  · by_contra hexpired
    exact hleeway ⟨Int.not_le.mp hexpired, (counts_of_verify h).2⟩
  · obtain rfl : c' = c :=
      Option.some.inj ((stated?_of_verify h').symm.trans (stated?_of_verify h))
    exact absurd (counts_of_verify h').2 (Int.not_le.mpr hover)

section Sealed
open Platform

/-- The access token of user 1 expires in the year 2100: it is accepted at that very second, and
refused a minute and a second later. -/
theorem unexpired_of_sealedToken :
    verify sealedSetup.scheme sealedSetup.keys.find sealedSetup.issuers (clock 1).seconds .access
        sealedToken = .ok (sampleUser 1 .borrower) ∧
      (clock 1).seconds ≤ (sampleUser 1 .borrower).expiry ∧
      verify sealedSetup.scheme sealedSetup.keys.find sealedSetup.issuers 4102444800 .access
        sealedToken = .ok (sampleUser 1 .borrower) ∧
      verify sealedSetup.scheme sealedSetup.keys.find sealedSetup.issuers 4102444861 .access
        sealedToken = .error (.token .expired) := by
  have haccess := issued_sealedToken.verify
  obtain ⟨hunexpired, hclock, -⟩ := unexpired_of_verify haccess
  have hexpiry : (sampleUser 1 .borrower).expiry = 4102444800 := rfl
  refine ⟨haccess, hunexpired fun hleeway => ?_, (hclock _).trans (if_pos ?_),
    (hclock _).trans (if_neg ?_)⟩
  · exact absurd hleeway.1 (by rw [hexpiry]; decide)
  · rw [hexpiry]; decide
  · rw [hexpiry]; decide

/-- Half a minute after it has expired, the token is accepted nevertheless. -/
theorem accepted_though_expired :
    ∃ c, verify sealedSetup.scheme sealedSetup.keys.find sealedSetup.issuers 4102444830 .access
        sealedToken = .ok c ∧ c.expiry < 4102444830 := by
  have hexpiry : (sampleUser 1 .borrower).expiry = 4102444800 := rfl
  refine ⟨_, (verify_at issued_sealedToken.verify 4102444830).trans (if_pos ?_), ?_⟩
  · rw [hexpiry]; decide
  · rw [hexpiry]; decide

end Sealed

end Crowdlending.Token
