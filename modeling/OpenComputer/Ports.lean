import OpenComputer.State
import Mathlib.Data.List.Range

/-!
# Port allocation (`allocate_port`)

`allocatePorts n st` makes `n` calls of `allocate_port` one after another. `fetch_add` is
atomic, so this is every linearization of `n` concurrent calls. The `k`-th call returns the
starting counter plus `k` modulo `2^16` (`allocatePorts_eq`): from a fresh state the
`55536`-th call returns `65535`, the next one `0`, and the `65537`-th `10000` again
(`allocatePort_wraps`).
-/

namespace OpenComputer.Ports

open AppState

/-- `n` calls of `allocate_port`, in linearization order: the ports returned, and the state
after the last call. -/
def allocatePorts : Nat → AppState → List UInt16 × AppState
  | 0, st => ([], st)
  | n + 1, st =>
    let (p, st') := st.allocatePort
    let r := allocatePorts n st'
    (p :: r.1, r.2)

lemma toNat_add_one (a : UInt16) : (a + 1).toNat = (a.toNat + 1) % 65536 := by
  simp [UInt16.add_def, UInt16.toNat, BitVec.toNat_add]

lemma toNat_ofNat (n : Nat) : (UInt16.ofNat n).toNat = n % 65536 := by
  simp [UInt16.ofNat, UInt16.toNat]

lemma toNat_lt (a : UInt16) : a.toNat < 65536 := a.toBitVec.isLt

/-- **The `k`-th port handed out** is the starting counter plus `k`, modulo `2^16`. -/
theorem allocatePorts_eq (n : Nat) (st : AppState) :
    (allocatePorts n st).1 = (List.range n).map fun k => UInt16.ofNat (st.nextPort.toNat + k) := by
  induction n generalizing st with
  | zero => rfl
  | succ n ih =>
    simp only [allocatePorts, allocatePort, ih, List.range_succ_eq_map, List.map_cons, List.map_map]
    congr 1
    · apply UInt16.toNat.inj
      have := toNat_lt st.nextPort
      rw [toNat_ofNat]
      omega
    · refine List.map_congr_left fun k _ => UInt16.toNat.inj ?_
      simp only [Function.comp, toNat_ofNat, toNat_add_one, Nat.succ_eq_add_one]
      omega

/-- **The counter wraps.** Of `65537` calls from a fresh state, the `55536`-th returns `65535`,
the next one `0`, below `PORT_RANGE_START`, and the last one `10000` again, the port of the
first call. -/
theorem allocatePort_wraps (d : Option String) :
    (allocatePorts 65537 (withPreviewDomain d)).1[55535]? = some 65535 ∧
      (allocatePorts 65537 (withPreviewDomain d)).1[55536]? = some 0 ∧
      (allocatePorts 65537 (withPreviewDomain d)).1[0]? = some portRangeStart ∧
      (allocatePorts 65537 (withPreviewDomain d)).1[65536]? = some portRangeStart := by
  simp only [allocatePorts_eq, List.getElem?_map,
    List.getElem?_range (show 55535 < 65537 by omega),
    List.getElem?_range (show 55536 < 65537 by omega),
    List.getElem?_range (show 0 < 65537 by omega),
    List.getElem?_range (show 65536 < 65537 by omega), Option.map_some', withPreviewDomain]
  decide

end OpenComputer.Ports
