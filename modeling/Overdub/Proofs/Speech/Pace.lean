import Overdub.Proofs.Binary64
import Overdub.Speech.Pace

/-!
Places and lengths grow with what they are counted by.
-/

namespace Overdub.Pace

theorem place_mono (p : Pace) {j k : Nat} (h : j ≤ k) : p.place j ≤ p.place k :=
  Dyadic.toWord_mono (Dyadic.value_mul_mono _ (Dyadic.value_ofNat_mono (Nat.mul_le_mul_right hop h)))

theorem output_mono {p : Pace} (hp : 0 < p.speed.mantissa) {m n : Nat} (h : m ≤ n) :
    p.output m ≤ p.output n :=
  Dyadic.toWord_mono (Dyadic.value_div_mono hp (Dyadic.value_ofNat_mono h))

end Overdub.Pace
