import DeviceInfoPlugin.CoreResult
import DeviceInfoPlugin.PropertyFiles
import Mathlib.Data.List.Chain

/-!
# The network addresses

`Addresses` walks over the adapters and, for each, over its IPv4 addresses.
The string `nodeName` and the record that is filled in are declared outside
both loops, so an adapter without addresses gets what the string still holds.
-/

namespace DeviceInfoPlugin
namespace DeviceInfo

/-- What `Core::AdapterIterator` shows of one adapter. -/
structure Adapter where
  name : Text
  mac : Text
  ipv4 : List Text
deriving DecidableEq

structure AddressesInfo where
  name : Text
  mac : Text
  ip : Text
deriving DecidableEq

/-- The inner loop: every address is assigned to `nodeName`. -/
def assignAddresses (nodeName : Text) : List Text → Text
  | [] => nodeName
  | hostAddress :: rest =>
      let nodeName := hostAddress
      assignAddresses nodeName rest

/-- The outer loop, with the variables that outlive an iteration. -/
def addressesLoop (nodeName : Text) (deviceAddressInfo : AddressesInfo)
    (deviceAddressesInfoList : List AddressesInfo) :
    List Adapter → List AddressesInfo
  | [] => deviceAddressesInfoList
  | adapter :: interfaces =>
      let deviceAddressInfo :=
        { deviceAddressInfo with name := adapter.name, mac := adapter.mac }
      let nodeName := assignAddresses nodeName adapter.ipv4
      let deviceAddressInfo := { deviceAddressInfo with ip := nodeName }
      addressesLoop nodeName deviceAddressInfo
        (deviceAddressesInfoList ++ [deviceAddressInfo]) interfaces

def addresses (interfaces : List Adapter) : Hresult × List AddressesInfo :=
  (ERROR_NONE, addressesLoop [] ⟨[], [], []⟩ [] interfaces)

/-! ## The contract -/

def Adapter.lastAddress (adapter : Adapter) : Text :=
  adapter.ipv4.getLastD []

def Adapter.record (adapter : Adapter) : AddressesInfo :=
  ⟨adapter.name, adapter.mac, adapter.lastAddress⟩

/-- One record per adapter, and none depends on another adapter. -/
def OwnAddresses (interfaces : List Adapter) : Prop :=
  addresses interfaces = (ERROR_NONE, interfaces.map Adapter.record)

/-- No adapter without addresses directly follows one that leaves an address
behind. -/
def NothingLeftBehind (interfaces : List Adapter) : Prop :=
  interfaces.IsChain fun before adapter =>
    adapter.ipv4 = [] → before.lastAddress = []

theorem nothingLeftBehind_cons {adapter : Adapter} {interfaces : List Adapter} :
    NothingLeftBehind (adapter :: interfaces) ↔
      (∀ next ∈ interfaces.head?, next.ipv4 = [] → adapter.lastAddress = []) ∧
        NothingLeftBehind interfaces :=
  List.isChain_cons

/-! ## What the loops compute -/

theorem assignAddresses_eq (nodeName : Text) (ipv4 : List Text) :
    assignAddresses nodeName ipv4 = ipv4.getLastD nodeName := by
  induction ipv4 generalizing nodeName with
  | nil => rfl
  | cons hostAddress rest ih =>
      rw [assignAddresses, ih, List.getLastD_cons]

def recordsFrom (nodeName : Text) : List Adapter → List AddressesInfo
  | [] => []
  | adapter :: interfaces =>
      ⟨adapter.name, adapter.mac, adapter.ipv4.getLastD nodeName⟩ ::
        recordsFrom (adapter.ipv4.getLastD nodeName) interfaces

theorem addressesLoop_eq (nodeName : Text) (deviceAddressInfo : AddressesInfo)
    (collected : List AddressesInfo) (interfaces : List Adapter) :
    addressesLoop nodeName deviceAddressInfo collected interfaces =
      collected ++ recordsFrom nodeName interfaces := by
  induction interfaces generalizing nodeName deviceAddressInfo collected with
  | nil => simp [addressesLoop, recordsFrom]
  | cons adapter interfaces ih =>
      rw [addressesLoop, ih, recordsFrom, assignAddresses_eq]
      simp

theorem recordsFrom_length (nodeName : Text) (interfaces : List Adapter) :
    (recordsFrom nodeName interfaces).length = interfaces.length := by
  induction interfaces generalizing nodeName with
  | nil => rfl
  | cons adapter interfaces ih => simp [recordsFrom, ih]

/-- `nodeName` holds the last address of all adapters treated so far. -/
theorem recordsFrom_append (nodeName : Text) (before after : List Adapter) :
    recordsFrom nodeName (before ++ after) =
      recordsFrom nodeName before ++
        recordsFrom ((before.flatMap Adapter.ipv4).getLastD nodeName) after := by
  induction before generalizing nodeName with
  | nil => rfl
  | cons adapter before ih =>
      have hlast : ((adapter :: before).flatMap Adapter.ipv4).getLastD nodeName =
          (before.flatMap Adapter.ipv4).getLastD
            (adapter.ipv4.getLastD nodeName) := by
        rw [List.flatMap_cons]
        simp [List.getLastD_eq_getLast?, List.getLast?_append]
      rw [List.cons_append, recordsFrom, recordsFrom, ih, hlast, List.cons_append]

/-- Each adapter gets a record of its own, with its name and MAC and the last
of all addresses that it and the adapters before it have, whichever adapter
that belongs to; the adapters behind it do not count. -/
theorem addresses_latest (interfaces : List Adapter) :
    (addresses interfaces).1 = ERROR_NONE ∧
      (addresses interfaces).2.length = interfaces.length ∧
      ∀ before adapter after, interfaces = before ++ adapter :: after →
        (addresses interfaces).2[before.length]? = some
          ⟨adapter.name, adapter.mac,
            ((before ++ [adapter]).flatMap Adapter.ipv4).getLastD []⟩ := by
  have hrecords : (addresses interfaces).2 = recordsFrom [] interfaces := by
    simp [addresses, addressesLoop_eq]
  rw [hrecords]
  refine ⟨rfl, recordsFrom_length [] interfaces, ?_⟩
  intro before adapter after hsplit
  have hindex : before.length = (recordsFrom [] before).length :=
    (recordsFrom_length [] before).symm
  rw [hsplit, recordsFrom_append, hindex, List.getElem?_append_right (le_refl _)]
  simp [recordsFrom, List.getLastD_eq_getLast?, List.getLast?_append]

theorem ownAddresses_iff_records (interfaces : List Adapter) :
    OwnAddresses interfaces ↔
      recordsFrom [] interfaces = interfaces.map Adapter.record := by
  simp [OwnAddresses, addresses, addressesLoop_eq]

/-- One iteration: the record is the adapter's own exactly if the adapter has
an address or `nodeName` is empty. -/
theorem record_iff (nodeName : Text) (adapter : Adapter) :
    adapter.ipv4.getLastD nodeName = adapter.lastAddress ↔
      (adapter.ipv4 = [] → nodeName = []) := by
  rw [Adapter.lastAddress]
  cases adapter.ipv4 with
  | nil => simp
  | cons hostAddress rest =>
      rw [List.getLastD_cons, List.getLastD_cons]
      simp

/-- While all records are right, `nodeName` holds the last address of the
adapter just treated. -/
theorem recordsFrom_iff (nodeName : Text) (interfaces : List Adapter) :
    recordsFrom nodeName interfaces = interfaces.map Adapter.record ↔
      (∀ adapter ∈ interfaces.head?, adapter.ipv4 = [] → nodeName = []) ∧
        NothingLeftBehind interfaces := by
  induction interfaces generalizing nodeName with
  | nil => simp [recordsFrom, NothingLeftBehind]
  | cons adapter interfaces ih =>
      have hrecord : (⟨adapter.name, adapter.mac,
            adapter.ipv4.getLastD nodeName⟩ : AddressesInfo) = adapter.record ↔
          (adapter.ipv4 = [] → nodeName = []) := by
        rw [Adapter.record, AddressesInfo.mk.injEq]
        simpa using record_iff nodeName adapter
      rw [recordsFrom, List.map_cons, List.cons.injEq, hrecord, ih,
        nothingLeftBehind_cons]
      simp only [List.head?_cons, Option.mem_some_iff, forall_eq']
      apply and_congr_right
      intro hown
      have hlast : adapter.ipv4.getLastD nodeName = adapter.lastAddress :=
        (record_iff nodeName adapter).mpr hown
      rw [hlast]

theorem ownAddresses_iff (interfaces : List Adapter) :
    OwnAddresses interfaces ↔ NothingLeftBehind interfaces := by
  rw [ownAddresses_iff_records, recordsFrom_iff]
  simp

/-! ## Any order of the adapters -/

theorem nothingLeftBehind_of_forall {interfaces : List Adapter}
    (hall : (∀ adapter ∈ interfaces, adapter.ipv4 ≠ []) ∨
      ∀ adapter ∈ interfaces, adapter.lastAddress = []) :
    NothingLeftBehind interfaces := by
  induction interfaces with
  | nil => exact List.isChain_nil
  | cons adapter interfaces ih =>
      simp only [List.forall_mem_cons] at hall
      rw [nothingLeftBehind_cons]
      rcases hall with ⟨_, haddresses⟩ | ⟨hnone, hrest⟩
      · constructor
        · intro next hnext hempty
          have hmem := List.mem_of_mem_head? hnext
          exact absurd hempty (haddresses next hmem)
        · exact ih (Or.inl haddresses)
      · constructor
        · intro next _ _
          exact hnone
        · exact ih (Or.inr hrest)

/-- All orders of the adapters are treated right exactly if no order can put
an adapter without addresses behind one that leaves an address. -/
theorem ownAddresses_perm_iff (interfaces : List Adapter) :
    (∀ reordered, reordered.Perm interfaces → OwnAddresses reordered) ↔
      (∀ adapter ∈ interfaces, adapter.ipv4 ≠ []) ∨
        ∀ adapter ∈ interfaces, adapter.lastAddress = [] := by
  constructor
  · intro hperm
    by_contra hmixed
    push Not at hmixed
    rcases hmixed with ⟨⟨bare, hbare, hempty⟩, before, hbefore, hleft⟩
    have hne : bare ≠ before := by
      intro heq
      subst heq
      exact hleft (by simp [Adapter.lastAddress, hempty])
    have hmem : bare ∈ interfaces.erase before :=
      (List.mem_erase_of_ne hne).mpr hbare
    have horder : (before :: bare :: (interfaces.erase before).erase bare).Perm
        interfaces :=
      ((List.perm_cons_erase hmem).symm.cons before).trans
        (List.perm_cons_erase hbefore).symm
    have hown := (ownAddresses_iff _).mp (hperm _ horder)
    exact hleft ((nothingLeftBehind_cons.mp hown).1 bare rfl hempty)
  · intro hall reordered hreordered
    have hmem : ∀ adapter, adapter ∈ reordered ↔ adapter ∈ interfaces := by
      intro adapter
      exact hreordered.mem_iff
    rw [ownAddresses_iff]
    apply nothingLeftBehind_of_forall
    simpa only [hmem] using hall

theorem addresses_own_iff (interfaces : List Adapter) :
    (OwnAddresses interfaces ↔ NothingLeftBehind interfaces) ∧
      ((∀ reordered, reordered.Perm interfaces → OwnAddresses reordered) ↔
        (∀ adapter ∈ interfaces, adapter.ipv4 ≠ []) ∨
          ∀ adapter ∈ interfaces, adapter.lastAddress = []) :=
  ⟨ownAddresses_iff interfaces, ownAddresses_perm_iff interfaces⟩

/-- The second adapter, which has no address, is reported with the address of
the first, and without one when the two change places. -/
theorem addresses_left_behind :
    addresses
        [⟨"eth0".toList, "aa".toList, ["192.168.1.2".toList]⟩,
          ⟨"wlan0".toList, "bb".toList, []⟩] =
      (ERROR_NONE, [⟨"eth0".toList, "aa".toList, "192.168.1.2".toList⟩,
        ⟨"wlan0".toList, "bb".toList, "192.168.1.2".toList⟩]) ∧
    ¬ OwnAddresses
        [⟨"eth0".toList, "aa".toList, ["192.168.1.2".toList]⟩,
          ⟨"wlan0".toList, "bb".toList, []⟩] ∧
    OwnAddresses
        [⟨"wlan0".toList, "bb".toList, []⟩,
          ⟨"eth0".toList, "aa".toList, ["192.168.1.2".toList]⟩] := by
  unfold OwnAddresses
  decide

end DeviceInfo
end DeviceInfoPlugin
