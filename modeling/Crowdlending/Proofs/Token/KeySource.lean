import Crowdlending.Platform.State

/-!
# Verifying by a source of keys

Whichever source the keys come from, a token is verified by what it finds, and the published keys
are there for good. An endpoint may be out of reach, and then it is not the token that is at fault:
a source is available as long as it only fails to know a key.
-/
namespace Crowdlending.Token
open Crypto

section Verify
variable (scheme : SignatureScheme) (issuers : Issuers) (expected : Kind) (token : String)

/-- A cache is a source of keys like any other. Verifying with it is verifying with what it
finds. -/
theorem KeyCache.verify_result (cache : KeyCache) (ms : Nat) (reply : Reply) (now : Int) :
    (cache.verify scheme issuers ms reply now expected token).result =
      Token.verify scheme (fun kid => (cache.find ms reply kid).result) issuers now expected
        token := by
  unfold KeyCache.verify Token.verify
  cases requestedKey token <;> rfl

theorem KeySource.verify_result (source : KeySource) (keys : KeySet) (now : Moment) :
    (source.verify scheme issuers keys now expected token).2 =
      Token.verify scheme (source.find keys now) issuers now.seconds expected token := by
  cases source with
  | published => rfl
  | remote cache replies => exact cache.verify_result scheme issuers expected token _ _ _

theorem KeySource.verify_published (keys : KeySet) (now : Moment) :
    (published.verify scheme issuers keys now expected token).1 = published := rfl

end Verify

theorem token_of_find_error {s : KeySet} {kid : String} {f : Failure} (h : s.find kid = .error f) :
    f = .token .unknownKey := by
  unfold KeySet.find at h
  split at h <;> cases h
  rfl

/-- If every key that is not found is not known, whatever is refused is an invalid token. -/
theorem token_of_refused {scheme : SignatureScheme} {find : String → Except Failure PublicKey}
    {issuers : Issuers} {now : Int} {expected : Kind} {token : String} {f : Failure}
    (hfind : ∀ kid f, find kid = .error f → ∃ fault, f = .token fault)
    (h : verify scheme find issuers now expected token = .error f) :
    ∃ fault, f = .token fault := by
  unfold verify at h
  split at h
  · cases h
    exact ⟨_, rfl⟩
  · split at h
    · next e he =>
        cases h
        exact hfind _ _ he
    · split at h <;> cases h
      exact ⟨_, rfl⟩

end Crowdlending.Token

namespace Crowdlending.Platform
open Token

/-- Whatever key is not found is not known; nothing else goes wrong with a look-up. -/
def IsAvailable (s : Setup) (p : Platform) (now : Moment) : Prop :=
  ∀ kid f, p.findKey s now kid = .error f → ∃ fault, f = .token fault

theorem isAvailable_of_published {s : Setup} {p : Platform} (h : p.source = .published)
    (now : Moment) : p.IsAvailable s now := by
  intro kid f hfind
  rw [findKey, h] at hfind
  exact ⟨_, token_of_find_error hfind⟩

/-- A token is verified by the keys that are found, and no other source comes in place of the
published keys. -/
theorem verify_eq (s : Setup) (p : Platform) (now : Moment) (kind : Kind) (token : String) :
    ∃ source, (p.source = .published → source = .published) ∧
      p.verify s now kind token =
        .ofExcept ({ p with source }.count (.validation (Token.verify s.scheme (p.findKey s now)
            s.issuers now.seconds kind token).isOk))
          (Token.verify s.scheme (p.findKey s now) s.issuers now.seconds kind token) := by
  refine ⟨(p.source.verify s.scheme s.issuers s.keys now kind token).1, fun h => ?_, ?_⟩
  · rw [h, KeySource.verify_published]
  · have hresult := p.source.verify_result s.scheme s.issuers kind token s.keys now
    simp only [verify, hresult]
    rfl

end Crowdlending.Platform
