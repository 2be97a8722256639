import Mathlib.Data.List.Induction
import Mathlib.Data.List.Nodup
import Wwan.Modem.BearerNetwork

/-! What of the reported addresses, gateways, name servers and MTUs a bearer's configuration contains. -/

namespace Wwan.Modem.Bearer

open Modem.Qmi (appendUnique)

/-! What a configuration is for. -/

/-- The second list has what the first one has, each of it once and in the order of the first occurrences. -/
structure Once {α : Type} [DecidableEq α] (reported result : List α) : Prop where
  mem : ∀ x, x ∈ result ↔ x ∈ reported
  nodup : result.Nodup
  order : result.Pairwise fun x y => reported.idxOf x < reported.idxOf y

/-- What a modem reports, as far as the conversion of addresses accepts it. -/
structure Reported where
  addresses : List Prefix
  gateways : List Addr
  dns : List Addr
  mtus : List UInt32

/-- What a modem with a session for each family reports. -/
def Qmi.reported (infos : List Qmi.PDNInfo) : Reported where
  addresses := infos.flatMap fun info => [Qmi.localIPv4 info, Qmi.localIPv6 info].filterMap id
  gateways := (infos.flatMap fun info => [info.ipv4Gateway, info.ipv6Gateway]).filterMap unmapped
  dns := (infos.flatMap Qmi.PDNInfo.dns).filterMap unmapped
  mtus := infos.map Qmi.PDNInfo.mtu

/-- What a modem with one record for both families reports. -/
def Mbim.reported (info : Mbim.IPConfigurationInfo) : Reported where
  addresses := (info.ipv4Addresses ++ info.ipv6Addresses).filterMap Mbim.prefixed
  gateways := [info.ipv4Gateway, info.ipv6Gateway].filterMap unmapped
  dns := (info.ipv4DNSServers ++ info.ipv6DNSServers).filterMap unmapped
  mtus := [info.ipv4MTU, info.ipv6MTU]

/-- Nothing is lost or doubled, and packets that fit the configuration fit every family. -/
structure Merged (reported : Reported) (config : NetworkConfig) : Prop where
  addresses : Once reported.addresses config.addresses
  gateways : Once reported.gateways config.gateways
  dns : Once reported.dns config.dns
  mtuZero : config.mtu = 0 → ∀ mtu ∈ reported.mtus, mtu = 0
  mtuFits : ∀ mtu ∈ reported.mtus, mtu ≠ 0 → config.mtu ≤ mtu

/-- Everything is listed as it is reported, and packets of the configuration's size fit some family. -/
structure Listed (reported : Reported) (config : NetworkConfig) : Prop where
  /-- The order of the modem is kept, and so are the values that it reports twice. -/
  same : config.addresses = reported.addresses ∧ config.gateways = reported.gateways ∧ config.dns = reported.dns
  addresses : reported.addresses.Nodup → Once reported.addresses config.addresses
  gateways : reported.gateways.Nodup → Once reported.gateways config.gateways
  dns : reported.dns.Nodup → Once reported.dns config.dns
  mtuZero : config.mtu = 0 → ∀ mtu ∈ reported.mtus, mtu = 0
  mtuLargest : config.mtu ∈ reported.mtus ∧ ∀ mtu ∈ reported.mtus, mtu ≤ config.mtu

/-! Each value once. -/

section

variable {α : Type} [DecidableEq α]

/-- One more reported value is there once. -/
theorem Once.snoc {reported result : List α} (once : Once reported result) (x : α) :
    Once (reported ++ [x]) (if x ∈ result then result else result ++ [x]) := by
  -- What was reported before keeps its first place.
  have kept : result.Pairwise fun y z => (reported ++ [x]).idxOf y < (reported ++ [x]).idxOf z := by
    refine once.order.imp_of_mem fun {y z} left right before => ?_
    rwa [List.idxOf_append_of_mem ((once.mem y).mp left), List.idxOf_append_of_mem ((once.mem z).mp right)]
  by_cases known : x ∈ result
  · -- The value is there already.
    rw [if_pos known]
    refine ⟨fun y => ?_, once.nodup, kept⟩
    rw [List.mem_append, List.mem_singleton, ← once.mem]
    exact ⟨.inl, fun either => either.elim id fun same => same ▸ known⟩
  · -- The value is new and stands last.
    rw [if_neg known]
    have fresh : x ∉ reported := fun there => known ((once.mem x).mpr there)
    refine ⟨fun y => ?_, ?_, ?_⟩
    · rw [List.mem_append, List.mem_append, once.mem]
    · rw [List.nodup_append]
      exact ⟨once.nodup, List.nodup_singleton x, fun y left z right same => known (by simp_all)⟩
    · refine List.pairwise_append.mpr ⟨kept, List.pairwise_singleton _ x, fun y left z right => ?_⟩
      rw [List.mem_singleton.mp right, List.idxOf_append_of_mem ((once.mem y).mp left),
        List.idxOf_append_of_notMem fresh, List.idxOf_cons_self]
      exact List.idxOf_lt_length_of_mem ((once.mem y).mp left)

/-- Appending what is not there keeps each reported value once. -/
theorem Once.appendUnique {reported result : List α} (once : Once reported result) (candidates : List α) :
    Once (reported ++ candidates) (appendUnique result candidates) := by
  induction candidates generalizing reported result with
  | nil =>
    rw [List.append_nil]
    exact once
  | cons x rest ih =>
    have next := ih (once.snoc x)
    rwa [List.append_assoc, List.singleton_append] at next

/-- Nothing was reported. -/
theorem Once.nil : Once ([] : List α) [] := ⟨by simp, .nil, .nil⟩

/-- A list without duplicates has each of its values once. -/
theorem Once.refl {reported : List α} (nodup : reported.Nodup) : Once reported reported := by
  refine ⟨fun _ => Iff.rfl, nodup, List.pairwise_iff_getElem.mpr fun i j left right before => ?_⟩
  rwa [nodup.idxOf_getElem i left, nodup.idxOf_getElem j right]

end

/-! The merge. -/

/-- One more session keeps what is merged. -/
theorem Merged.mergeNetworkConfig {infos : List Qmi.PDNInfo} {config : NetworkConfig}
    (merged : Merged (Qmi.reported infos) config) (interfaceName : GoString) (info : Qmi.PDNInfo) :
    Merged (Qmi.reported (infos ++ [info])) (Qmi.mergeNetworkConfig interfaceName config info) := by
  have addresses := merged.addresses.appendUnique (Qmi.networkConfig interfaceName info).addresses
  have gateways := merged.gateways.appendUnique (Qmi.networkConfig interfaceName info).gateways
  have dns := merged.dns.appendUnique (Qmi.networkConfig interfaceName info).dns
  have reported : Qmi.reported (infos ++ [info]) =
      { addresses := (Qmi.reported infos).addresses ++ (Qmi.networkConfig interfaceName info).addresses
        gateways := (Qmi.reported infos).gateways ++ (Qmi.networkConfig interfaceName info).gateways
        dns := (Qmi.reported infos).dns ++ (Qmi.networkConfig interfaceName info).dns
        mtus := (Qmi.reported infos).mtus ++ [info.mtu] } := by
    have pair (first second : Option Prefix) :
        [first, second].filterMap (fun x => x) = first.toList ++ second.toList := by
      cases first <;> cases second <;> rfl
    simp [Qmi.reported, Qmi.networkConfig, pair]
  rw [reported]
  -- The loop takes over a size that is not zero and smaller than what it has.
  have mtu : (Qmi.mergeNetworkConfig interfaceName config info).mtu =
      if info.mtu ≠ 0 ∧ (config.mtu = 0 ∨ info.mtu < config.mtu) then info.mtu else config.mtu := rfl
  by_cases smaller : info.mtu ≠ 0 ∧ (config.mtu = 0 ∨ info.mtu < config.mtu)
  · -- The new size is the smallest so far.
    rw [if_pos smaller] at mtu
    refine ⟨addresses, gateways, dns, fun zero => absurd (mtu.symm.trans zero) smaller.1, fun size there nonzero => ?_⟩
    rw [mtu]
    rcases List.mem_append.mp there with early | last
    · rcases smaller.2 with unset | less
      · exact absurd (merged.mtuZero unset size early) nonzero
      · exact UInt32.le_trans (UInt32.le_of_lt less) (merged.mtuFits size early nonzero)
    · rw [List.mem_singleton.mp last]
      exact UInt32.le_refl _
  · -- The size stays, since the new one is zero or not smaller.
    rw [if_neg smaller] at mtu
    refine ⟨addresses, gateways, dns, fun zero size there => ?_, fun size there nonzero => ?_⟩
    · rw [mtu] at zero
      rcases List.mem_append.mp there with early | last
      · exact merged.mtuZero zero size early
      · rw [List.mem_singleton.mp last]
        by_contra nonzero
        exact smaller ⟨nonzero, .inl zero⟩
    · rw [mtu]
      rcases List.mem_append.mp there with early | last
      · exact merged.mtuFits size early nonzero
      · rw [List.mem_singleton.mp last] at nonzero ⊢
        exact UInt32.not_lt.mp fun less => smaller ⟨nonzero, .inr less⟩

/-- The sessions are merged. -/
theorem mergeNetworkConfigs_merged (interfaceName : GoString) (infos : List Qmi.PDNInfo) :
    Merged (Qmi.reported infos) (Qmi.mergeNetworkConfigs interfaceName infos) := by
  -- The induction is from the last session on, since the loop starts with the first.
  induction infos using List.reverseRecOn with
  | nil => exact ⟨.nil, .nil, .nil, by simp [Qmi.reported], by simp [Qmi.reported]⟩
  | append_singleton infos info ih =>
    rw [Qmi.mergeNetworkConfigs, List.foldl_append]
    exact ih.mergeNetworkConfig interfaceName info

/-- A record is listed. -/
theorem networkConfig_listed (interfaceName : GoString) (info : Mbim.IPConfigurationInfo) :
    Listed (Mbim.reported info) (Mbim.networkConfig interfaceName info) := by
  have larger : (Mbim.networkConfig interfaceName info).mtu =
      if info.ipv4MTU ≤ info.ipv6MTU then info.ipv6MTU else info.ipv4MTU := rfl
  have chosen : (Mbim.networkConfig interfaceName info).mtu ∈ (Mbim.reported info).mtus := by
    rw [larger]
    split <;> simp [Mbim.reported]
  have largest : ∀ mtu ∈ (Mbim.reported info).mtus, mtu ≤ (Mbim.networkConfig interfaceName info).mtu := by
    intro mtu there
    rw [larger]
    by_cases ordered : info.ipv4MTU ≤ info.ipv6MTU
    · rw [if_pos ordered]
      rcases List.mem_pair.mp there with rfl | rfl
      · exact ordered
      · exact UInt32.le_refl _
    · rw [if_neg ordered]
      rcases List.mem_pair.mp there with rfl | rfl
      · exact UInt32.le_refl _
      · exact UInt32.le_of_lt (UInt32.not_le.mp ordered)
  refine ⟨⟨rfl, rfl, rfl⟩, Once.refl, Once.refl, Once.refl, ?_, chosen, largest⟩
  intro zero mtu there
  have bound := largest mtu there
  rw [zero] at bound
  exact UInt32.le_zero_iff.mp bound

/--
The configuration of a bearer has everything that was reported and accepted, and nothing else.

Sessions of the two families are merged into each value once and the smallest MTU. One record for both is listed as it
is, with the largest MTU.
-/
theorem bearer_network_config (interfaceName : GoString) :
    (∀ infos, Merged (Qmi.reported infos) (Qmi.mergeNetworkConfigs interfaceName infos))
      ∧ ∀ info, Listed (Mbim.reported info) (Mbim.networkConfig interfaceName info) :=
  ⟨mergeNetworkConfigs_merged interfaceName, networkConfig_listed interfaceName⟩

/-- A record of two families whose MTUs differ. -/
def differentMTUs : Mbim.IPConfigurationInfo := { ipv4MTU := 1420, ipv6MTU := 1500 }

/-- A record with a name server that is reported twice. -/
def sameDNS : Mbim.IPConfigurationInfo := { ipv4DNSServers := [[8, 8, 8, 8], [8, 8, 8, 8]] }

/-- Neither of them is merged: the larger MTU does not fit one family, and the name server is there twice. -/
theorem records_not_merged : ¬Merged (Mbim.reported differentMTUs) (Mbim.networkConfig [] differentMTUs)
    ∧ ¬Merged (Mbim.reported sameDNS) (Mbim.networkConfig [] sameDNS) := by
  refine ⟨fun merged => ?_, fun merged => ?_⟩
  · exact absurd (merged.mtuFits 1420 (by decide) (by decide)) (by decide)
  · exact absurd merged.dns.nodup (by decide)

end Wwan.Modem.Bearer
