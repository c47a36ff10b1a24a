import JazzOnTheMove.Library.EventLoop
import JazzOnTheMove.Library.Ranking
import JazzOnTheMove.Deals
import JazzOnTheMove.IOS.DealsScreens
import JazzOnTheMove.IOS.DealsInterleavings
import JazzOnTheMove.IOS.DealsDelivery
import JazzOnTheMove.Android.DealsFragments
import JazzOnTheMove.SameDeals
import JazzOnTheMove.IOS.PosterCells
import JazzOnTheMove.IOS.RecycledCells
import JazzOnTheMove.IOS.FoundationJson
import JazzOnTheMove.IOS.HomeSliderVM
import JazzOnTheMove.IOS.SliderRetries
import JazzOnTheMove.IOS.MainViewController
import JazzOnTheMove.IOS.SideMenuRest
import JazzOnTheMove.IOS.IntroVC
import JazzOnTheMove.IOS.IntroTaps
import JazzOnTheMove.Android.MainActivity
import JazzOnTheMove.Android.Navigation
import JazzOnTheMove.Android.SectionRaces
import JazzOnTheMove.IOS.ContentControllers
import JazzOnTheMove.IOS.SideMenuGestures
import JazzOnTheMove.IOS.SideMenuDrags
import JazzOnTheMove.Android.EditProfileActivity
import JazzOnTheMove.Android.ProfileRecords
import JazzOnTheMove.Android.Recreation
import JazzOnTheMove.IOS.SideMenuRotation
import JazzOnTheMove.Android.PickedImages
import JazzOnTheMove.IOS.CarouselScreens
import JazzOnTheMove.IOS.Carousels
import JazzOnTheMove.IOS.SliderFiles
import JazzOnTheMove.Android.ItemsAdapter
import JazzOnTheMove.Android.FailedQueries
import JazzOnTheMove.Android.FloatingMenu
import JazzOnTheMove.Android.PhoneActivity
import JazzOnTheMove.Android.SignInDeadEnds
import JazzOnTheMove.IOS.CarouselScroller
import JazzOnTheMove.Library.Pager
import JazzOnTheMove.IOS.CarouselRuns
import JazzOnTheMove.IOS.CarouselPages
import JazzOnTheMove.IOS.CarouselSight
import JazzOnTheMove.IOS.CarouselImages
import JazzOnTheMove.Android.Screens
import JazzOnTheMove.Android.ScreenRuns
import JazzOnTheMove.Android.ScreenHistories
import JazzOnTheMove.Android.SliderFragments
import JazzOnTheMove.SameSliders
import JazzOnTheMove.Android.FileUtil
import JazzOnTheMove.IOS.DealDetails
import JazzOnTheMove.SameDetails
import JazzOnTheMove.IOS.SideMenuViewController
