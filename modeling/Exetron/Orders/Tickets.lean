import Exetron.Lib.Grouping
import Exetron.Orders.Steps
import Exetron.System

/-!
# The tickets of an order

The lines of a confirmed order are grouped by the station that their product is routed to, and each
group becomes a ticket. A line whose product is gone gets no ticket, and a product whose code is a
name that every object has is routed to what the database takes for no station.
-/

namespace Exetron.Orders

open Lib List

variable {groups : List (Kitchen.StationKey × List LineItem)} {context : RequestContext} {db : Db}
  {tickets : List KitchenTicket}

def routingOf (setup : Setup) (order : Order) : Kitchen.KitchenRoutingConfig :=
  let setting (rows : List Setting) (ownerId : Id) : Option Json :=
    Json.present
      ((rows.find? fun s => s.ownerId = ownerId ∧ s.key = "kitchen.routing").map Setting.value)
  Kitchen.resolveKitchenRoutingConfig
    ((setting setup.storeSettings order.storeId).or (setting setup.tenantSettings order.tenantId))

def stationOf (setup : Setup) (order : Order) (item : LineItem) : Option Kitchen.StationKey :=
  (setup.products.find? fun product => product.id = item.productId).map fun product =>
    Kitchen.resolveKitchenStationKey (routingOf setup order) product.code product.categoryCode

def stationed (setup : Setup) (order : Order) : List (Kitchen.StationKey × LineItem) :=
  order.items.filterMap fun item => (stationOf setup order item).map fun station => (station, item)

theorem addToGroup_eq (station : Kitchen.StationKey) (item : LineItem)
    (groups : List (Kitchen.StationKey × List LineItem)) :
    addToGroup station item groups = Grouping.add station item groups := by
  induction groups with
  | nil => rfl
  | cons group rest ih => rw [addToGroup, Grouping.add, ih]

theorem groupByStation_eq (setup : Setup) (order : Order) :
    groupByStation setup order = Grouping.collect (stationed setup order) := by
  unfold groupByStation stationed Grouping.collect
  rw [foldl_filterMap]
  refine congrArg (foldl · [] order.items) ?_
  funext groups item
  unfold stationOf
  cases setup.products.find? fun product => product.id = item.productId with
  | none => rfl
  | some product => exact addToGroup_eq ..

def ticketItem (item : LineItem) : KitchenTicketItem :=
  ⟨item.id, item.productId, item.variantId, item.quantity, item.lineTotal, item.snapshot⟩

/-- The ticket of a group of lines. -/
structure IsTicketOf (order : Order) (group : Kitchen.StationKey × List LineItem)
    (ticket : KitchenTicket) : Prop where
  order : ticket.orderId = order.id
  station : group.1 = .text ticket.stationKey
  items : ticket.items = group.2.map ticketItem
  count : ticket.itemCount = (group.2.map LineItem.quantity).sum

theorem createKitchenTicket_makes (context : RequestContext) (order : Order) (stationKey : String)
    (items : List LineItem) (db : Db) : ∃ ticket db',
      createKitchenTicket context order stationKey items db = .ok ((), db') ∧
        db'.kitchenTickets = db.kitchenTickets ++ [ticket] ∧
        IsTicketOf order (.text stationKey, items) ticket :=
  ⟨_, _, rfl, rfl, rfl, rfl, rfl, rfl⟩

theorem createStationTickets_makes (context : RequestContext) (order : Order)
    (texts : ∀ group ∈ groups, ∃ key, group.1 = .text key) (db : Db) : ∃ tickets db',
      groups.forM (createStationTicket context order) db = .ok ((), db') ∧
        db'.kitchenTickets = db.kitchenTickets ++ tickets ∧
        List.Forall₂ (IsTicketOf order) groups tickets := by
  induction groups generalizing db with
  | nil => exact ⟨[], db, rfl, (append_nil _).symm, .nil⟩
  | cons group groups ih =>
    obtain ⟨station, items⟩ := group
    obtain ⟨key, rfl⟩ : ∃ key, station = .text key := texts _ mem_cons_self
    obtain ⟨ticket, m, made, added, is⟩ := createKitchenTicket_makes context order key items db
    obtain ⟨tickets, db', rest, more, are⟩ :=
      ih (fun group listed => texts group (mem_cons_of_mem _ listed)) m
    refine ⟨ticket :: tickets, db', ?_, ?_, .cons is are⟩
    · exact Tx.bind_of_ok made _ |>.trans rest
    · rw [more, added, append_assoc]
      rfl

theorem createStationTickets_text {order : Order} {u : PUnit} {db' : Db}
    (h : groups.forM (createStationTicket context order) db = .ok (u, db')) :
    ∀ group ∈ groups, ∃ key, group.1 = .text key := by
  induction groups generalizing db with
  | nil => exact fun _ listed => absurd listed not_mem_nil
  | cons group groups ih =>
    obtain ⟨_, m, first, rest⟩ := Tx.bind_ok h
    intro other listed
    rcases mem_cons.mp listed with rfl | listed
    · obtain ⟨station, items⟩ := other
      cases station with
      | text key => exact ⟨key, rfl⟩
      | inherited name => cases (Tx.lift_ok_iff.mp first).1
    · exact ih rest other listed

def ticketsOf (db : Db) (orderId : Id) : List KitchenTicket :=
  db.kitchenTickets.filter fun ticket => ticket.orderId = orderId

theorem ticketsOf_eq_nil_iff {orderId : Id} : ticketsOf db orderId = [] ↔
      (db.kitchenTickets.countP fun ticket => ticket.orderId = orderId) = 0 := by
  rw [countP_eq_length_filter, length_eq_zero_iff]
  rfl

theorem createKitchenTicketsForOrder_again {order : Order} (ticketed : ticketsOf db order.id ≠ []) :
    createKitchenTicketsForOrder context order db = .ok ((), db) := by
  have some : 0 < db.kitchenTickets.countP fun ticket => ticket.orderId = order.id :=
    Nat.pos_of_ne_zero fun none => ticketed (ticketsOf_eq_nil_iff.mpr none)
  unfold createKitchenTicketsForOrder
  exact (Tx.bind_of_ok rfl _).trans (by rw [if_pos some]; rfl)

theorem createKitchenTicketsForOrder_first {order : Order}
    (unticketed : ticketsOf db order.id = []) : createKitchenTicketsForOrder context order db =
      (groupByStation db.setup order).forM (createStationTicket context order) db := by
  have none : ¬(db.kitchenTickets.countP fun ticket => ticket.orderId = order.id) > 0 := by
    rw [ticketsOf_eq_nil_iff.mp unticketed]
    exact lt_irrefl 0
  unfold createKitchenTicketsForOrder
  refine (Tx.bind_of_ok rfl _).trans ?_
  rw [if_neg none]
  exact Tx.bind_of_ok rfl _

/-- The tickets part the order: each line is on one ticket, which is that of its station, no two
tickets have one station, and each counts what its lines count. -/
structure PartOrder (setup : Setup) (order : Order) (tickets : List KitchenTicket) : Prop where
  items : (tickets.flatMap KitchenTicket.items).Perm (order.items.map ticketItem)
  routed : ∀ ticket ∈ tickets, ∀ line ∈ ticket.items, ∃ item ∈ order.items,
    line = ticketItem item ∧ stationOf setup order item = some (.text ticket.stationKey)
  stations : (tickets.map KitchenTicket.stationKey).Nodup
  counts : ∀ ticket ∈ tickets,
    ticket.itemCount = (ticket.items.map KitchenTicketItem.quantity).sum

def TicketsOnce (context : RequestContext) (order : Order) (db : Db) : Prop :=
  ∃ db', createKitchenTicketsForOrder context order db = .ok ((), db') ∧
    PartOrder db.setup order (ticketsOf db' order.id) ∧
    ∀ context' later, ticketsOf later order.id = ticketsOf db' order.id →
      createKitchenTicketsForOrder context' order later = .ok ((), later)

section
variable {setup : Setup} {order : Order}

theorem mem_stationed {station : Kitchen.StationKey} {item : LineItem}
    (listed : (station, item) ∈ stationed setup order) :
    item ∈ order.items ∧ stationOf setup order item = some station := by
  obtain ⟨line, stands, found⟩ := mem_filterMap.mp listed
  obtain ⟨_, routed, same⟩ := Option.map_eq_some_iff.mp found
  obtain ⟨rfl, rfl⟩ := Prod.mk.inj same
  exact ⟨stands, routed⟩

theorem items_of_tickets (are : List.Forall₂ (IsTicketOf order) groups tickets) :
    tickets.flatMap KitchenTicket.items = (groups.flatMap Prod.snd).map ticketItem := by
  induction are with
  | nil => rfl
  | cons is _ ih => rw [flatMap_cons, flatMap_cons, map_append, is.items, ih]

theorem stations_of_tickets (are : List.Forall₂ (IsTicketOf order) groups tickets) :
    (tickets.map KitchenTicket.stationKey).map Kitchen.StationKey.text = groups.map Prod.fst := by
  induction are with
  | nil => rfl
  | cons is _ ih => rw [map_cons, map_cons, map_cons, ih, is.station]

theorem group_of_ticket (are : List.Forall₂ (IsTicketOf order) groups tickets)
    {ticket : KitchenTicket} (made : ticket ∈ tickets) :
    ∃ group ∈ groups, IsTicketOf order group ticket := by
  induction are with
  | nil => cases made
  | @cons group ticket' groups tickets is _ ih =>
    rcases mem_cons.mp made with rfl | made
    · exact ⟨group, mem_cons_self, is⟩
    · obtain ⟨other, listed, is⟩ := ih made
      exact ⟨other, mem_cons_of_mem _ listed, is⟩

theorem partOrder_of_groups (all : (stationed setup order).map Prod.snd = order.items)
    (are : List.Forall₂ (IsTicketOf order) (groupByStation setup order) tickets) :
    PartOrder setup order tickets := by
  rw [groupByStation_eq] at are
  have grouped := Grouping.ungroup_collect (stationed setup order)
  constructor
  · rw [items_of_tickets are, ← Grouping.map_snd_ungroup, ← all]
    exact (grouped.map Prod.snd).map ticketItem
  · intro ticket made line stands
    obtain ⟨group, listed, is⟩ := group_of_ticket are made
    rw [is.items] at stands
    obtain ⟨item, within, rfl⟩ := mem_map.mp stands
    obtain ⟨known, routed⟩ :=
      mem_stationed (grouped.subset (Grouping.mem_ungroup.mpr ⟨group, listed, rfl, within⟩))
    exact ⟨item, known, rfl, routed.trans (congrArg _ is.station)⟩
  · refine List.Nodup.of_map Kitchen.StationKey.text ?_
    rw [stations_of_tickets are]
    exact Grouping.nodup_collect _
  · intro ticket made
    obtain ⟨group, _, is⟩ := group_of_ticket are made
    rw [is.count, is.items, map_map]
    rfl

theorem map_snd_stationed (all : ∀ item ∈ order.items, (stationOf setup order item).isSome = true) :
    (stationed setup order).map Prod.snd = order.items := by
  unfold stationed
  rw [map_filterMap]
  refine (filterMap_congr fun item listed => ?_).trans filterMap_some
  obtain ⟨station, routed⟩ := Option.isSome_iff_exists.mp (all item listed)
  rw [routed]
  rfl

theorem isSome_of_items (are : List.Forall₂ (IsTicketOf order) (groupByStation setup order) tickets)
    (items : (tickets.flatMap KitchenTicket.items).Perm (order.items.map ticketItem)) :
    ∀ item ∈ order.items, (stationOf setup order item).isSome = true := by
  have length : (stationed setup order).length = order.items.length := by
    rw [groupByStation_eq] at are
    have counted := items.length_eq
    rw [items_of_tickets are, ← Grouping.map_snd_ungroup, length_map, length_map,
      length_map, (Grouping.ungroup_collect _).length_eq] at counted
    exact counted
  intro item listed
  have found := filterMap_length_eq_length.mp length item listed
  rwa [Option.isSome_map] at found

end

/-- The tickets of an order part it, once for all, just when each line has a station that is a
text. -/
theorem ticketsOnce_iff_texts {order : Order} (unticketed : ticketsOf db order.id = []) :
    TicketsOnce context order db ↔
      ∀ item ∈ order.items, ∃ key, stationOf db.setup order item = some (.text key) := by
  have made {db' : Db} {tickets : List KitchenTicket}
      (added : db'.kitchenTickets = db.kitchenTickets ++ tickets)
      (are : List.Forall₂ (IsTicketOf order) (groupByStation db.setup order) tickets) :
      ticketsOf db' order.id = tickets := by
    have own : tickets.filter (fun ticket => ticket.orderId = order.id) = tickets := by
      refine filter_eq_self.mpr fun ticket listed => ?_
      obtain ⟨_, _, is⟩ := group_of_ticket are listed
      simpa using is.order
    rw [ticketsOf, added, filter_append, own]
    exact congrArg (· ++ tickets) unticketed
  constructor
  · rintro ⟨db', done, parts, _⟩
    rw [createKitchenTicketsForOrder_first unticketed] at done
    have texts := createStationTickets_text done
    obtain ⟨tickets, db'', done', added, are⟩ := createStationTickets_makes context order texts db
    obtain ⟨_, rfl⟩ := Prod.mk.inj (Except.ok.inj (done.symm.trans done'))
    rw [made added are] at parts
    intro item listed
    obtain ⟨station, routed⟩ :=
      Option.isSome_iff_exists.mp (isSome_of_items are parts.items item listed)
    have stands : (station, item) ∈ stationed db.setup order :=
      mem_filterMap.mpr ⟨item, listed, by rw [routed]; rfl⟩
    have grouped := (Grouping.ungroup_collect (stationed db.setup order)).symm.subset stands
    obtain ⟨group, known, rfl, _⟩ := Grouping.mem_ungroup.mp grouped
    obtain ⟨key, text⟩ := texts group (groupByStation_eq db.setup order ▸ known)
    exact ⟨key, routed.trans (congrArg _ text)⟩
  · intro all
    have texts : ∀ group ∈ groupByStation db.setup order, ∃ key, group.1 = .text key := by
      intro group listed
      rw [groupByStation_eq] at listed
      obtain ⟨⟨station, item⟩, stands, key⟩ := Grouping.key_of_collect group listed
      obtain ⟨known, routed⟩ := mem_stationed stands
      obtain ⟨text, is⟩ := all item known
      exact ⟨text, key.symm.trans (Option.some.inj (routed.symm.trans is))⟩
    obtain ⟨tickets, db', done, added, are⟩ := createStationTickets_makes context order texts db
    have every : ∀ item ∈ order.items, (stationOf db.setup order item).isSome = true := by
      intro item listed
      obtain ⟨key, routed⟩ := all item listed
      rw [routed]
      rfl
    have parts := partOrder_of_groups (map_snd_stationed every) are
    rw [← made added are] at parts
    refine ⟨db', (createKitchenTicketsForOrder_first unticketed).trans done, parts, ?_⟩
    intro context' later same
    by_cases none : ticketsOf later order.id = []
    · have empty : order.items = [] := by
        have items := parts.items
        rw [← same, none] at items
        exact map_eq_nil_iff.mp items.nil_eq.symm
      rw [createKitchenTicketsForOrder_first none, groupByStation, empty]
      rfl
    · exact createKitchenTicketsForOrder_again none

def normalizedCode (code : String) : String := Text.toLowerCase (Text.trim code)

def isConfigured (code : String) (entries : List (String × String)) : Bool :=
  entries.any fun entry => entry.1 = code

/-- The code of the product is configured, or the lookup of it and that of its category find no name
that every object has. -/
def RoutesToText (config : Kitchen.KitchenRoutingConfig) (productCode : String)
    (categoryCode : Option String) : Prop :=
  isConfigured (normalizedCode productCode) config.productCodeMap = true ∨
    normalizedCode productCode ∉ Kitchen.inheritedNames ∧
      ∀ category ∈ categoryCode,
        isConfigured (normalizedCode category) config.categoryCodeMap = true ∨
          normalizedCode category ∉ Kitchen.inheritedNames

theorem lookupCode_cases (code : String) (entries : List (String × String)) :
    isConfigured code entries = true ∧ (∃ key, Kitchen.lookupCode code entries = some (.text key)) ∨
      isConfigured code entries = false ∧ Kitchen.lookupCode code entries =
        if code ∈ Kitchen.inheritedNames then some (.inherited code) else none := by
  unfold Kitchen.lookupCode
  cases found : entries.reverse.find? fun entry => entry.1 = code with
  | some entry =>
    have stands := mem_reverse.mp (mem_of_find?_eq_some found)
    have keyed : entry.1 = code := by simpa using find?_some found
    exact .inl ⟨any_eq_true.mpr ⟨entry, stands, by simpa using keyed⟩, entry.2, rfl⟩
  | none =>
    refine .inr ⟨any_eq_false.mpr fun entry listed => ?_, rfl⟩
    exact find?_eq_none.mp found entry (mem_reverse.mpr listed)

theorem resolveKitchenStationKey_text_iff {config : Kitchen.KitchenRoutingConfig}
    {productCode : String} {categoryCode : Option String} :
    (∃ key, Kitchen.resolveKitchenStationKey config productCode categoryCode = .text key) ↔
      RoutesToText config productCode categoryCode := by
  have nothing : "" ∉ Kitchen.inheritedNames := by decide
  unfold Kitchen.resolveKitchenStationKey RoutesToText
  dsimp only
  rw [← normalizedCode]
  rcases lookupCode_cases (normalizedCode productCode) config.productCodeMap with
    ⟨configured, key, found⟩ | ⟨unknown, found⟩
  · rw [found, configured]
    exact iff_of_true ⟨key, rfl⟩ (.inl rfl)
  rw [found, unknown]
  by_cases named : normalizedCode productCode ∈ Kitchen.inheritedNames
  · simp [named]
  rw [if_neg named]
  cases categoryCode with
  | none => simp [named]
  | some category =>
    rw [Option.map_some, Option.bind_some, ← normalizedCode]
    rcases lookupCode_cases (normalizedCode category) config.categoryCodeMap with
      ⟨configured, key, found⟩ | ⟨unknown, found⟩
    · rw [found]
      by_cases blank : normalizedCode category = ""
      · simp [named, blank, nothing]
      · simp [named, blank, configured]
    · rw [found]
      by_cases named' : normalizedCode category ∈ Kitchen.inheritedNames
      · have written : normalizedCode category ≠ "" := fun blank => nothing (blank ▸ named')
        simp [named, named', written, unknown]
      · simp [named, named']

/-- The tickets of an order part it, once for all, just when each of its lines has a product that is
still there and is routed to a text. -/
theorem ticketsOnce_iff {context : RequestContext} {order : Order} {db : Db}
    (unticketed : ticketsOf db order.id = []) :
    TicketsOnce context order db ↔ ∀ item ∈ order.items, ∃ product,
      (db.setup.products.find? fun product => product.id = item.productId) = some product ∧
        RoutesToText (routingOf db.setup order) product.code product.categoryCode := by
  refine (ticketsOnce_iff_texts unticketed).trans ?_
  refine forall₂_congr fun item _ => ?_
  unfold stationOf
  cases db.setup.products.find? fun product => product.id = item.productId with
  | none => simp
  | some product => simp [← resolveKitchenStationKey_text_iff]

def orderOf (productId : Id) : Order where
  id := 70
  tenantId := 1
  storeId := 2
  cartId := none
  customerProfileId := none
  number := "A-1"
  channel := .pos
  status := .confirmed
  refundStatus := .none
  customerName := none
  customerPhone := none
  note := none
  subtotal := 1000
  modifierTotal := 0
  fulfillmentFee := 0
  discountTotal := 0
  total := 1000
  promotionCode := none
  promotionSnapshot := none
  fulfillmentMode := none
  fulfillmentStatus := none
  fulfillmentPayload := none
  promisedAt := none
  etaAt := none
  placedAt := 5
  confirmedAt := some 6
  readyAt := none
  completedAt := none
  cancelledAt := none
  cancelReason := none
  deviceId := none
  createdByUserId := none
  items := [⟨71, productId, none, 1, some 1000, 0, 1000, .null, []⟩]

def constructorSet : Product where
  id := 10
  tenantId := 1
  code := "constructor"
  name := "Constructor set"
  description := none
  categoryCode := none
  basePrice := some 1000
  modifierGroupLinks := []

def toyShop : Db := { shop with
  setup := { shop.setup with products := [constructorSet] } }

def barista : RequestContext := ⟨"u1", some 1, .tenantMember, [], none⟩

theorem espresso_ticketsOnce_iff : TicketsOnce barista (orderOf 10) shop ↔
    ∀ item ∈ (orderOf 10).items, ∃ product,
      (shop.setup.products.find? fun product => product.id = item.productId) = some product ∧
        RoutesToText (routingOf shop.setup (orderOf 10)) product.code product.categoryCode :=
  ticketsOnce_iff rfl

/-- A line whose product was removed is on no ticket, and the product of the code `constructor` lets
the whole call fail. -/
theorem removed_and_constructor_not_ticketsOnce : ¬TicketsOnce barista (orderOf 11) shop ∧
      ¬TicketsOnce barista (orderOf 10) toyShop := by
  constructor
  · intro once
    obtain ⟨_, routed⟩ := (ticketsOnce_iff_texts rfl).mp once _ List.mem_cons_self
    cases routed
  · intro once
    obtain ⟨key, routed⟩ := (ticketsOnce_iff_texts rfl).mp once _ List.mem_cons_self
    have inherited : stationOf toyShop.setup (orderOf 10)
        ⟨71, 10, none, 1, some 1000, 0, 1000, .null, []⟩ = some (.inherited "constructor") := by
      decide +kernel
    cases Option.some.inj (routed.symm.trans inherited)

end Exetron.Orders
