import ShoppingApp.Library.Transition
import ShoppingApp.Library.Projection
import ShoppingApp.Library.Record
import ShoppingApp.Library.Documents
import ShoppingApp.Library.Pool
import ShoppingApp.Library.Replica
import ShoppingApp.Library.WriteOnce
import ShoppingApp.Library.Moments
import ShoppingApp.Library.Ranks
import ShoppingApp.Library.Inevitable
import ShoppingApp.Model.Dictionary
import ShoppingApp.Model.Item
import ShoppingApp.Model.Basket
import ShoppingApp.Model.MUser
import ShoppingApp.Model.Firestore
import ShoppingApp.Model.Device
import ShoppingApp.Model.World
import ShoppingApp.Proof.Handlers
import ShoppingApp.Proof.Inversion
import ShoppingApp.Proof.Effects
import ShoppingApp.Proof.ScreenHandlers
import ShoppingApp.Proof.SingleRequest
import ShoppingApp.Proof.UserUpdates
import ShoppingApp.Proof.CacheAgreement
import ShoppingApp.Proof.PurchaseHistory
import ShoppingApp.Proof.Payment
import ShoppingApp.Proof.Checkout
import ShoppingApp.Proof.FailedAdd
import ShoppingApp.Proof.SessionIdentity
import ShoppingApp.Proof.NewNames
import ShoppingApp.Proof.OneBasket
import ShoppingApp.Proof.BasketEdits
import ShoppingApp.Proof.Isolation
import ShoppingApp.Proof.ItemDownload
import ShoppingApp.Proof.Settling
import ShoppingApp.Proof.Operations
import ShoppingApp.Proof.FanIn
import ShoppingApp.Proof.UserRecords
import ShoppingApp.Proof.FullName
import ShoppingApp.Proof.VerifiedCache
import ShoppingApp.Proof.RepeatedLogin
import ShoppingApp.Proof.CheckoutOffer
import ShoppingApp.Proof.Interference
import ShoppingApp.Model.Search
import ShoppingApp.Proof.LastSearch
import ShoppingApp.Model.Category
import ShoppingApp.Model.Publishing
import ShoppingApp.Model.Browsing
import ShoppingApp.Model.App
import ShoppingApp.Proof.ItemIds
import ShoppingApp.Proof.BasketTrace
import ShoppingApp.Proof.WellFormedStore
import ShoppingApp.Proof.BasketScreen
import ShoppingApp.Proof.RoundTrip
import ShoppingApp.Proof.ItemDelivery
import ShoppingApp.Proof.RowDeletion
import ShoppingApp.Proof.SavedItems
import ShoppingApp.Proof.FormPublishing
import ShoppingApp.Proof.FailedDelete
import ShoppingApp.Model.Downloader
import ShoppingApp.Proof.ImageDelivery
import ShoppingApp.Proof.ItemPictures
import ShoppingApp.Proof.CellReuse
import ShoppingApp.Proof.Shelves
import ShoppingApp.Proof.RecordRules
import ShoppingApp.Proof.ListedItems
import ShoppingApp.Proof.KnownIds
import ShoppingApp.Proof.AppSteps
import ShoppingApp.Proof.AppItems
import ShoppingApp.Proof.ProfileTabs
import ShoppingApp.Proof.References
import ShoppingApp.Proof.StoredCategories
import ShoppingApp.Proof.StoredImages
import ShoppingApp.Proof.Listings
import ShoppingApp.Proof.FetchedImages
import ShoppingApp.Proof.ShownPictures
import ShoppingApp.Proof.PictureViews
import ShoppingApp.Proof.Onboarding
import ShoppingApp.Proof.Sessions
import ShoppingApp.Proof.Stops
import ShoppingApp.Proof.WholeData
import ShoppingApp.Proof.AppStops
import ShoppingApp.Proof.SearchIndicator
import ShoppingApp.Proof.SearchTabs
import ShoppingApp.Proof.Crashes
import ShoppingApp.Proof.TabUsers
import ShoppingApp.Proof.HistoryScreen
import ShoppingApp.Proof.AddedItems
import ShoppingApp.Proof.RequestRanks
import ShoppingApp.Proof.Settles
import ShoppingApp.Proof.TypedItems
