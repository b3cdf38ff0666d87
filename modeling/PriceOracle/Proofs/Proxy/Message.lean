import PriceOracle.Proofs.Json.Print
import PriceOracle.Proxy.Message

/-!
# PriceOracle.Proofs.Proxy.Message

Messages come back from their texts, whatever characters are in them.
-/

namespace PriceOracle
namespace Proxy

open Json (parse_print)

theorem Request.ofJson?_toJson (r : Request) : Request.ofJson? r.toJson = some r := by
  cases r <;> rfl

theorem Request.ofText?_text (r : Request) : Request.ofText? r.text = some r := by
  have hecho : Json.echo r.toJson = r.toJson := by cases r <;> rfl
  rw [ofText?, text, parse_print, Option.bind_some, hecho, ofJson?_toJson]

theorem Response.ofJson?_toJson (r : Response) : Response.ofJson? r.toJson = some r := by
  rcases r with (_ | v) | _ | message <;> rfl

theorem Response.ofText?_text (r : Response) : Response.ofText? r.text = some r := by
  have hecho : Json.echo r.toJson = r.toJson := by rcases r with (_ | v) | _ | message <;> rfl
  rw [ofText?, text, parse_print, Option.bind_some, hecho, ofJson?_toJson]

end Proxy
end PriceOracle
