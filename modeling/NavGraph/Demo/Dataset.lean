import NavGraph.Demo.Marker
import NavGraph.Text.Trim

/-!
# Demonstration data

The analysis of an imaginary shop: nine pages from the landing page to the order confirmation,
and two journeys through them.

## Main definitions

* `demoAnalysis` - the analysis
* `demoNodes`, `demoRoutes`, `demoJourneys` - its parts
-/

namespace NavGraph.Demo

/-- An unconditional link. -/
def link (target trigger : String) : Connection := ⟨target, .navigation, trigger, none⟩

/-- A page of the shop, in the file of its component. -/
def demoPage (id name route component : String) (connections : List Connection)
    (metadata : Metadata) : Node :=
  ⟨id, name, route, "src/pages/" ++ component ++ ".tsx", .page, connections, metadata⟩

/-- The page "Home". -/
def homePage : Node :=
  demoPage "home" "Home" "/" "HomePage"
    [link "products" "Shop Now button", link "login" "Login link",
     link "signup" "Sign Up button"]
    ⟨"Home Page", "Landing page with hero section and featured products",
      false, false, false, .medium,
      ["Browse products", "Sign up", "Login"],
      ["Direct URL", "Search engines", "Social media"]⟩

/-- The page "Products". -/
def productsPage : Node :=
  demoPage "products" "Products" "/products" "ProductsPage"
    [link "product-detail" "Product card click", link "cart" "Add to cart",
     ⟨"login", .conditional, "Wishlist action", some "not authenticated"⟩]
    ⟨"Product Catalog", "Browse and filter products with search functionality",
      false, true, false, .high,
      ["Filter products", "Search", "Add to cart", "View details"],
      ["Home page", "Search results", "Category links"]⟩

/-- The page "Product Detail". -/
def productDetailPage : Node :=
  demoPage "product-detail" "Product Detail" "/products/:id" "ProductDetailPage"
    [link "cart" "Add to cart button", link "checkout" "Buy now button",
     link "products" "Back to products"]
    ⟨"Product Details", "Detailed product view with images, specs, and reviews",
      false, true, false, .medium,
      ["View images", "Read reviews", "Add to cart", "Share product"],
      ["Product list", "Search results", "Direct link"]⟩

/-- The page "Login". -/
def loginPage : Node :=
  demoPage "login" "Login" "/login" "LoginPage"
    [⟨"dashboard", .redirect, "Successful login", some "valid credentials"⟩,
     link "signup" "Create account link"]
    ⟨"User Login", "Authentication form for existing users",
      true, false, false, .medium,
      ["Enter credentials", "Remember me", "Forgot password"],
      ["Header link", "Protected page redirect", "Checkout flow"]⟩

/-- The page "Sign Up". -/
def signupPage : Node :=
  demoPage "signup" "Sign Up" "/signup" "SignUpPage"
    [⟨"dashboard", .redirect, "Account created", some "valid form"⟩,
     link "login" "Already have account link"]
    ⟨"Create Account", "Registration form for new users",
      true, false, false, .high,
      ["Fill form", "Verify email", "Accept terms"],
      ["Home page CTA", "Login page", "Checkout flow"]⟩

/-- The page "Dashboard". -/
def dashboardPage : Node :=
  demoPage "dashboard" "Dashboard" "/dashboard" "DashboardPage"
    [link "order-success" "Order history", link "products" "Continue shopping"]
    ⟨"User Dashboard", "Personalized user area with account overview",
      true, false, true, .medium,
      ["View orders", "Update profile", "Manage preferences"],
      ["Login redirect", "Header link (authenticated)"]⟩

/-- The page "Shopping Cart". -/
def cartPage : Node :=
  demoPage "cart" "Shopping Cart" "/cart" "CartPage"
    [link "checkout" "Proceed to checkout", link "products" "Continue shopping",
     ⟨"login", .conditional, "Checkout", some "not authenticated"⟩]
    ⟨"Shopping Cart", "Review items before checkout",
      false, false, false, .medium,
      ["Update quantities", "Remove items", "Apply coupons"],
      ["Add to cart action", "Header cart icon"]⟩

/-- The page "Checkout". -/
def checkoutPage : Node :=
  demoPage "checkout" "Checkout" "/checkout" "CheckoutPage"
    [⟨"order-success", .redirect, "Payment success", some "payment processed"⟩,
     link "cart" "Back to cart"]
    ⟨"Checkout", "Payment and shipping information form",
      true, false, true, .high,
      ["Enter shipping", "Select payment", "Review order"],
      ["Cart page", "Buy now button"]⟩

/-- The page "Order Success". -/
def orderSuccessPage : Node :=
  demoPage "order-success" "Order Success" "/order/success" "OrderSuccessPage"
    [link "dashboard" "View order details", link "products" "Continue shopping"]
    ⟨"Order Confirmation", "Success page after completed purchase",
      true, true, true, .low,
      ["View order details", "Download receipt", "Continue shopping"],
      ["Checkout completion"]⟩

/-- The pages of the shop. -/
def demoNodes : List Node :=
  [homePage, productsPage, productDetailPage, loginPage, signupPage,
   dashboardPage, cartPage, checkoutPage, orderSuccessPage]

/-- The name of the component in a file of the shop: the file's name without its ending. -/
def componentOf (path : String) : String :=
  let file := ((Text.split '/' path.toList).getLast?).getD []
  String.ofList (file.take (file.length - 4))

/-- The entry of a page of the shop in the table of routes. -/
def demoRoute (n : Node) : RouteEntry where
  path := n.routePath
  componentName := componentOf n.sourcePath
  sourcePath := n.sourcePath
  guards := if n.metadata.isProtected then some ["auth"] else none
  params := if Text.contains ":id".toList n.routePath.toList then some ["id"] else none

/-- The table of routes of the shop. -/
def demoRoutes : List RouteEntry := demoNodes.map demoRoute

/-- Journeys through the shop. -/
def demoJourneys : List Journey := [
  { id := "guest-purchase"
    name := "Guest Purchase Flow"
    description := "New visitor discovers and purchases a product"
    steps := [homePage, productsPage, productDetailPage, cartPage, checkoutPage, orderSuccessPage]
    startId := "home"
    endId := "order-success"
    audience := .guest },
  { id := "returning-user"
    name := "Returning User Journey"
    description := "Authenticated user browses and makes repeat purchase"
    steps := [dashboardPage, productsPage, cartPage, checkoutPage, orderSuccessPage]
    startId := "dashboard"
    endId := "order-success"
    audience := .authenticated }]

/-- The start of 2024 in UTC. -/
def demoTime : Time.Timestamp :=
  (Time.Timestamp.ofEpochSeconds? 1704067200).getD .epoch

/-- The analysis of the imaginary shop. -/
def demoAnalysis : Analysis where
  repoUrl := "https://github.com/demo/react-ecommerce"
  repoName := "react-ecommerce"
  nodes := demoNodes
  routes := demoRoutes
  journeys := demoJourneys
  totalFiles := 45
  analyzedFiles := 12
  timestamp := demoTime

end NavGraph.Demo
