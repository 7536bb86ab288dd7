import SessionGate.Proofs.Navigation.Redirects

/- The policy judges a destination by the part of its url before the first question mark, whether it is given as
   a url or in its two parts, of which the path may hold question marks of its own. -/
namespace SessionGate.Navigation

/-! A url and its page -/

/-- A url is this page, with or without a query behind it, and the page has no question mark. -/
structure Addresses (url page : String) : Prop where
  plain : '?' ∉ page.toList
  whole : url = page ∨ ∃ query, url = page ++ "?" ++ query

theorem splitQuery_plain {cs : List Char} (plain : '?' ∉ cs) : splitQuery cs = (cs, none) := by
  induction cs with
  | nil => rfl
  | cons c cs ih =>
    obtain ⟨other, later⟩ := not_or.mp (mt List.mem_cons.mpr plain)
    simp only [splitQuery, Ne.symm other, if_false, ih later]

theorem splitQuery_marked {front : List Char} (plain : '?' ∉ front) (rest : List Char) :
    splitQuery (front ++ '?' :: rest) = (front, some rest) := by
  induction front with
  | nil => rfl
  | cons c cs ih =>
    obtain ⟨other, later⟩ := not_or.mp (mt List.mem_cons.mpr plain)
    simp only [List.cons_append, splitQuery, Ne.symm other, if_false, ih later]

theorem toList_queried (page query : String) :
    (page ++ "?" ++ query).toList = page.toList ++ '?' :: query.toList := by
  simp

theorem parse_plain {page : String} (plain : '?' ∉ page.toList) :
    Intent.parse page = ⟨page, none⟩ := by
  simp only [Intent.parse, splitQuery_plain plain, Option.map_none, String.ofList_toList]

theorem parse_queried {page : String} (plain : '?' ∉ page.toList) (query : String) :
    Intent.parse (page ++ "?" ++ query) = ⟨page, some query⟩ := by
  simp only [Intent.parse, toList_queried, splitQuery_marked plain, Option.map_some,
    String.ofList_toList]

theorem page_exists (url : String) : ∃ page, Addresses url page := by
  by_cases mark : '?' ∈ url.toList
  · obtain ⟨front, rest, whole, plain⟩ := List.eq_append_cons_of_mem mark
    refine ⟨String.ofList front, by rwa [String.toList_ofList], Or.inr ⟨String.ofList rest, ?_⟩⟩
    rw [← String.toList_inj, toList_queried, String.toList_ofList, String.toList_ofList, whole]
  · exact ⟨url, mark, Or.inl rfl⟩

theorem Addresses.queried {url page : String} (addresses : Addresses url page) (query : String) :
    Addresses (url ++ "?" ++ query) page := by
  refine ⟨addresses.plain, Or.inr ?_⟩
  rcases addresses.whole with rfl | ⟨former, rfl⟩
  · exact ⟨query, rfl⟩
  · exact ⟨former ++ "?" ++ query, by simp only [String.append_assoc]⟩

theorem Addresses.parse_path {url page : String} (addresses : Addresses url page) :
    (Intent.parse url).path = page := by
  rcases addresses.whole with rfl | ⟨query, rfl⟩
  · rw [parse_plain addresses.plain]
  · rw [parse_queried addresses.plain]

theorem Addresses.parse_url {url page : String} (addresses : Addresses url page) :
    (Intent.parse url).url = url := by
  rcases addresses.whole with rfl | ⟨query, rfl⟩
  · rw [parse_plain addresses.plain]
    rfl
  · rw [parse_queried addresses.plain]
    rfl

theorem Addresses.key {intent : Intent} {page : String} (addresses : Addresses intent.path page) :
    intent.key = page :=
  addresses.parse_path

theorem url_addresses (intent : Intent) : Addresses intent.url intent.key := by
  obtain ⟨page, addresses⟩ := page_exists intent.path
  rw [addresses.key]
  obtain ⟨path, query⟩ := intent
  cases query with
  | none => exact addresses
  | some query => exact addresses.queried query

theorem Addresses.parse_key {url page : String} (addresses : Addresses url page) :
    (Intent.parse url).key = page := by
  rw [Navigation.parse_key, addresses.parse_path]

/-- Only a path with a question mark of its own is taken apart otherwise than it was given. -/
theorem parse_url_iff (intent : Intent) :
    Intent.parse intent.url = intent ↔ '?' ∉ intent.path.toList := by
  constructor
  · intro same
    have page := (url_addresses intent).parse_path
    rw [same] at page
    exact page ▸ (url_addresses intent).plain
  · intro plain
    obtain ⟨path, query⟩ := intent
    cases query with
    | none => exact parse_plain plain
    | some query => exact parse_queried plain query

/-! Decisions -/

def AllowList.madeOf (paths added : List String) : AllowList :=
  added.foldl AllowList.insert ⟨paths⟩

theorem AllowList.mem_madeOf (paths added : List String) (path : String) :
    path ∈ (AllowList.madeOf paths added).paths ↔ path ∈ paths ∨ path ∈ added := by
  unfold AllowList.madeOf
  induction added generalizing paths with
  | nil => simp
  | cons first rest ih =>
    refine (ih (first :: paths)).trans ?_
    rw [List.mem_cons, List.mem_cons, or_assoc, or_left_comm]

namespace Policy

theorem decide_congr (policy : Policy) (visitor : Visitor) {intent other : Intent}
    (same : intent.key = other.key) : policy.decide visitor intent = policy.decide visitor other := by
  cases visitor with
  | authenticated => simp only [decide, same]
  | anonymous => simp only [decide, same]

theorem decide_members {listed others : AllowList}
    (same : ∀ path, path ∈ listed.paths ↔ path ∈ others.paths) (loginPage : String)
    (visitor : Visitor) (intent : Intent) :
    (⟨listed, loginPage⟩ : Policy).decide visitor intent =
      (⟨others, loginPage⟩ : Policy).decide visitor intent := by
  cases visitor with
  | authenticated => rfl
  | anonymous =>
    have opens : (⟨listed, loginPage⟩ : Policy).opens intent.key =
        (⟨others, loginPage⟩ : Policy).opens intent.key := by
      rw [Bool.eq_iff_iff, opens_iff, opens_iff, same]
    simp only [decide, opens]

end Policy

/-- A destination is judged as its url is, and is found again in it unless its path has a question mark. -/
structure JudgedAsUrl (policy : Policy) (visitor : Visitor) (intent : Intent) : Prop where
  plain : '?' ∉ intent.key.toList
  key : (Intent.parse intent.url).key = intent.key
  parse_iff : Intent.parse intent.url = intent ↔ '?' ∉ intent.path.toList
  decision : policy.decide visitor (.parse intent.url) = policy.decide visitor intent

theorem judged_as_url (policy : Policy) (visitor : Visitor) (intent : Intent) :
    JudgedAsUrl policy visitor intent := by
  have addresses := url_addresses intent
  have key := addresses.parse_key
  exact ⟨addresses.plain, key, parse_url_iff intent, policy.decide_congr visitor key⟩

theorem decisions_ignore_the_query (visitor : Visitor) :
    (∀ url, (Intent.parse url).url = url ∧ '?' ∉ (Intent.parse url).path.toList) ∧
      (∀ policy intent, JudgedAsUrl policy visitor intent) ∧
      (∀ (policy : Policy) url query, policy.decide visitor (.parse (url ++ "?" ++ query)) =
        policy.decide visitor (.parse url)) ∧
      (∀ paths added loginPage url page, Addresses url page →
        ((⟨.madeOf paths added, loginPage⟩ : Policy).decide .anonymous (.parse url) = .allow ↔
          page = loginPage ∨ page ∈ paths ∨ page ∈ added)) ∧
      ∀ paths added others later : List String,
        (∀ path, path ∈ paths ∨ path ∈ added ↔ path ∈ others ∨ path ∈ later) →
        ∀ loginPage intent, (⟨.madeOf paths added, loginPage⟩ : Policy).decide visitor intent =
          (⟨.madeOf others later, loginPage⟩ : Policy).decide visitor intent := by
  refine ⟨?_, fun policy => judged_as_url policy visitor, ?_, ?_, ?_⟩
  · intro url
    obtain ⟨page, addresses⟩ := page_exists url
    exact ⟨addresses.parse_url, addresses.parse_path ▸ addresses.plain⟩
  · intro policy url query
    obtain ⟨page, addresses⟩ := page_exists url
    apply policy.decide_congr visitor
    rw [(addresses.queried query).parse_key, addresses.parse_key]
  · intro paths added loginPage url page addresses
    rw [Policy.anonymous_allowed_iff, addresses.parse_key, AllowList.mem_madeOf]
  · intro paths added others later same loginPage intent
    apply Policy.decide_members
    intro path
    rw [AllowList.mem_madeOf, AllowList.mem_madeOf, same]

/- The path of the destination holds a question mark, and its page was listed twice, in another order. -/
theorem queried_register_page_opens :
    Addresses "/pages/register?from=login?x" "/pages/register" ∧
      (⟨.madeOf ["/a"] ["/pages/register"], "/pages/login"⟩ : Policy).decide .anonymous
        (.parse "/pages/register?from=login?x") = .allow ∧
      (⟨.madeOf ["/pages/register"] ["/a", "/pages/register"], "/pages/login"⟩ : Policy).decide
        .anonymous ⟨"/pages/register?from=login", some "x"⟩ = .allow := by
  have addresses : Addresses "/pages/register?from=login?x" "/pages/register" :=
    ⟨by decide, Or.inr ⟨"from=login?x", rfl⟩⟩
  obtain ⟨_, judged, _, allowed, remade⟩ := decisions_ignore_the_query .anonymous
  have opened := (allowed ["/a"] ["/pages/register"] "/pages/login" _ _ addresses).mpr
    (Or.inr (Or.inr List.mem_cons_self))
  have same : ∀ path, path ∈ ["/pages/register"] ∨ path ∈ ["/a", "/pages/register"] ↔
      path ∈ ["/a"] ∨ path ∈ ["/pages/register"] := by
    intro path
    simpa using Or.inr
  refine ⟨addresses, opened, ?_⟩
  rw [remade _ _ _ _ same, ← (judged _ _).decision]
  exact opened

end SessionGate.Navigation
