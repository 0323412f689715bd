import Chromium.HeapHashMap
import Chromium.AnchorQuery
import Chromium.AnchorQueryIterator
import Chromium.CachedValue
import Chromium.BrowserList
import Chromium.GroupId
import Chromium.TabGroup
import Chromium.ScrubTab
import Chromium.Navigation
import Chromium.TabLookup
import Chromium.OpenTab
import Chromium.DownloadManagerBridge
import Chromium.TabObject
import Chromium.OpenTabResult
